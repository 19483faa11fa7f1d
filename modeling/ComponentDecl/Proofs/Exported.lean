import ComponentDecl.Proofs.Component
import ComponentDecl.Proofs.Writing

/-!
# Exported classes and classes inside exports

The class that is declared need not be the exported one.  The search for it also enters the
decorators in front of an exported class and the exported value if that is no class, and a
class that is declared in there comes first.  These hidden classes decide exactly whether
the declared class is the exported one.
-/

namespace ComponentDecl
namespace Cursor

/-- The children of an export in front of the exported class.  Without an exported class
these are all its children. -/
def beforeClass (e : Cursor) : List Cursor :=
  e.namedChildren.takeWhile fun d => !d.tree.isClass

/-- The classes that are declared inside the children in front of the exported class. -/
def hiddenClasses (e : Cursor) : List Cursor :=
  e.beforeClass.flatMap fun d => d.nodes.filter (isA .classDeclaration)

/-- The class among the children of an export. -/
def classChild? (e : Cursor) : Option Cursor :=
  e.namedChildren.find? fun d => d.tree.isClass

/-!
# The first class
-/

/-- A node below a child of an export is no child of the export. -/
theorem not_isChildOf_of_mem_nodes {e d x : Cursor} (hd : d.parent? = some e)
    (hx : x ∈ d.nodes) (hne : x ≠ d) : x.isChildOf e = false := by
  rw [Bool.eq_false_iff]
  intro hchild
  have h₁ := depth_of_isChildOf hchild
  have h₂ := depth_of_parent? hd
  rcases depth_nodesOf hx with heq | hlt
  · exact hne heq
  · omega

theorem isClass_iff {c : Cursor} :
    c.tree.isClass = true ↔ c.isA .classDeclaration = true ∨ c.isA .classExpression = true := by
  rw [Tree.isClass, Bool.or_eq_true]
  rfl

theorem isClassOf_of_isClass {e d : Cursor} (hd : d ∈ e.namedChildren)
    (hclass : d.tree.isClass = true) : isClassOf e d = true := by
  have hnode := mem_nodes_of_mem_namedChildren hd
  have hchild := (isChildOf_iff_parent? hnode).mpr (parent?_of_mem_namedChildren hd)
  unfold isClassOf
  rcases isClass_iff.mp hclass with h | h <;> simp [h, hchild]

/-- Inside a child that is no class, only classes that are declared count. -/
theorem filter_isClassOf {e d : Cursor} (hd : d ∈ e.namedChildren)
    (hclass : d.tree.isClass = false) :
    d.nodes.filter (isClassOf e) = d.nodes.filter (isA .classDeclaration) := by
  apply List.filter_congr
  intro x hx
  by_cases heq : x = d
  · subst heq
    have hnot : x.isA .classDeclaration = false ∧ x.isA .classExpression = false := by
      simpa [Tree.isClass, isA, kind?] using hclass
    simp [isClassOf, hnot]
  · have hchild := not_isChildOf_of_mem_nodes (parent?_of_mem_namedChildren hd) hx heq
    simp [isClassOf, hchild]

theorem head?_flatMap_classes (e : Cursor) {ds : List Cursor}
    (hds : ∀ d ∈ ds, d ∈ e.namedChildren) :
    (ds.flatMap fun d => d.nodes.filter (isClassOf e)).head? =
      ((ds.takeWhile fun d => !d.tree.isClass).flatMap
          fun d => d.nodes.filter (isA .classDeclaration)).head?.or
        (ds.find? fun d => d.tree.isClass) := by
  induction ds with
  | nil =>
      rfl
  | cons d ds ih =>
      have hd := hds d List.mem_cons_self
      have hrest := ih fun x hx => hds x (List.mem_cons_of_mem d hx)
      cases hclass : d.tree.isClass with
      | true =>
          have hnamed : d.tree.isNamed = true := (List.mem_filter.mp hd).2
          rw [List.flatMap_cons, nodes_of_isNamed hnamed, List.filter_cons,
            if_pos (isClassOf_of_isClass hd hclass)]
          simp [hclass]
      | false =>
          rw [List.flatMap_cons, filter_isClassOf hd hclass, List.head?_append, hrest]
          simp [hclass, Option.or_assoc]

/-- The first class of an export: a hidden one, or else the class among its children. -/
theorem head?_classes {e : Cursor} (he : e.isA .exportStatement = true) :
    e.classes.head? = e.hiddenClasses.head?.or e.classChild? := by
  have hkind : e.tree.kind? = some .exportStatement := by
    simpa [isA, kind?] using he
  have hnamed : e.tree.isNamed = true := by
    simp [Tree.isNamed, hkind]
  have hself : isClassOf e e = false := by
    simp [isClassOf, isA, kind?, hkind]
  have hclasses : e.classes = e.namedChildren.flatMap fun d => d.nodes.filter (isClassOf e) := by
    rw [classes, nodes_of_isNamed hnamed, List.filter_cons, hself, List.filter_flatMap]
    simp
  rw [hclasses, head?_flatMap_classes e fun d hd => hd]
  rfl

/-!
# Hidden classes
-/

theorem hidden_not_child {e x : Cursor} (hx : x ∈ e.hiddenClasses) : x.parent? ≠ some e := by
  rcases List.mem_flatMap.mp hx with ⟨d, hd, hx⟩
  rcases List.mem_filter.mp hx with ⟨hnode, hdeclared⟩
  have hclass : d.tree.isClass = false := by
    simpa using List.mem_takeWhile_imp hd
  have hchild : d ∈ e.namedChildren := (List.takeWhile_prefix _).subset hd
  have hne : x ≠ d := by
    rintro rfl
    rw [isClass_iff.mpr (Or.inl hdeclared)] at hclass
    cases hclass
  intro hparent
  have hnot := not_isChildOf_of_mem_nodes (parent?_of_mem_namedChildren hchild) hnode hne
  have hmem := mem_nodes_trans (mem_nodes_of_mem_namedChildren hchild) hnode
  rw [(isChildOf_iff_parent? hmem).mpr hparent] at hnot
  cases hnot

/-- A class that is declared has a name. -/
theorem Sound.exists_name {c : Cursor} (h : c.Sound) (hc : c.isA .classDeclaration = true) :
    ∃ n, c.fieldNamed .name = some n := by
  rcases h.shape (eq_of_beq hc) with ⟨hleaf, _⟩ | ⟨hname, hidentifier⟩
  · exact absurd hleaf id
  · refine exists_fieldNamed ⟨hname, ?_⟩
    intro t ht hfield
    rw [Tree.isNamed, hidentifier t ht hfield]
    rfl

/-- The class among the children of an export is its declaration or its value. -/
theorem Sound.classChild?_spec {e c : Cursor} (h : e.Sound) (he : e.isA .exportStatement = true)
    (hc : e.classChild? = some c) :
    c.parent? = some e ∧ (c.field = some .declaration ∨ c.field = some .value) := by
  have hmem := List.mem_of_find?_eq_some hc
  have hclass : c.tree.isClass = true := by
    simpa using List.find?_some hc
  refine ⟨parent?_of_mem_namedChildren hmem, ?_⟩
  rcases h.branchSound he hmem with ⟨hbranch, hchild⟩
  exact hbranch c.tree hchild hclass

end Cursor

/-- The declaration of a module without a component: its opening lines and the closing
brace. -/
def bareText (o : Options) (name : Text) : Text :=
  openingText o name ++ "\x7d\n".toList

theorem Declaration.text_eq_bareText {o : Options} {name : Text} {c : Option Component} :
    text o name c = bareText o name ↔ c = none := by
  constructor
  · intro h
    cases c with
    | none =>
        rfl
    | some c =>
        rw [text_eq, bareText, Option.map_some, Option.getD_some, List.append_assoc] at h
        have hnil := List.append_left_eq_self.mp (List.append_cancel_left h)
        exact absurd hnil (componentText_ne_nil o c)
  · rintro rfl
    rw [text_eq, bareText]
    simp

/-!
# The declared class
-/

namespace Module

theorem class?_eq {m : Module} {e : Cursor} (he : m.defaultExports.head? = some e) :
    m.class? = (e.hiddenClasses.head?.or e.classChild?).bind fun c =>
      (c.fieldNamed .name).map fun n => (c, n) := by
  rw [← Cursor.head?_classes (isA_of_defaultExports he)]
  unfold class?
  rw [he]
  cases hc : e.classes.head? with
  | none =>
      simp [hc]
  | some c =>
      cases hn : c.fieldNamed .name <;> simp [hc, hn]

/-- A hidden class is declared in the place of the exported one. -/
theorem class?_of_hidden {source : Text} {m : Module} (hm : parse source = .ok m) {e x : Cursor}
    (he : m.defaultExports.head? = some e) (hx : e.hiddenClasses.head? = some x) :
    ∃ n, m.class? = some (x, n) := by
  have hmem := List.mem_of_mem_head? hx
  rcases List.mem_flatMap.mp hmem with ⟨d, hd, hnode⟩
  rcases List.mem_filter.mp hnode with ⟨hnode, hdeclared⟩
  have hchild : d ∈ e.namedChildren := (List.takeWhile_prefix _).subset hd
  have hnodes : x ∈ m.root.nodes :=
    Cursor.mem_nodes_trans (mem_nodes_of_defaultExports he)
      (Cursor.mem_nodes_trans (Cursor.mem_nodes_of_mem_namedChildren hchild) hnode)
  rcases ((sound_root hm).nodes hnodes).exists_name hdeclared with ⟨n, hn⟩
  refine ⟨n, ?_⟩
  rw [class?_eq he, hx]
  simp [hn]

theorem selected_eq_none {m : Module} {o : InferenceOptions} :
    m.selected o = none ↔ m.class? = none :=
  Option.map_eq_none_iff

theorem class?_eq_none {m : Module} {e : Cursor} (he : m.defaultExports.head? = some e)
    (hhidden : e.hiddenClasses = []) (hchild : e.classChild? = none) : m.class? = none := by
  rw [class?_eq he, hhidden, hchild]
  rfl

end Module

/-- The declared class is the exported value exactly if the export hides no class in front of
it.  An export whose value is no class gives a declaration without a component exactly if
no class is declared inside it; otherwise that class is declared. -/
theorem declares_exported_class_iff {source : Text} {m : Module}
    (hm : Module.parse source = .ok m) (o : Options) (name : Text) :
    (Declaration.ofSource o name source).value =
        .ok (Declaration.text o name (m.selected o.inference)) ∧
      (m.defaultExports = [] →
        (Declaration.ofSource o name source).value = .ok (bareText o name)) ∧
      ∀ e, m.defaultExports.head? = some e →
        ((∀ c n, m.class? = some (c, n) →
            c.parent? = some e ∧ (c.field = some .declaration ∨ c.field = some .value)) ↔
          e.hiddenClasses = []) ∧
        (e.classChild? = none →
          ((Declaration.ofSource o name source).value = .ok (bareText o name) ↔
            e.hiddenClasses = [])) := by
  have hvalue := (Declaration.ofSource_spec hm o name).1
  have hbare : (Declaration.ofSource o name source).value = .ok (bareText o name) ↔
      m.class? = none := by
    rw [hvalue, Except.ok.injEq, Declaration.text_eq_bareText, Module.selected_eq_none]
  refine ⟨hvalue, ?_, ?_⟩
  · intro hnone
    rw [hbare, Module.class?, hnone]
    rfl
  · intro e he
    have hsound : e.Sound := (Module.sound_root hm).nodes (Module.mem_nodes_of_defaultExports he)
    have hkind := Module.isA_of_defaultExports he
    constructor
    · constructor
      · intro hall
        cases hx : e.hiddenClasses with
        | nil =>
            rfl
        | cons x rest =>
            rcases Module.class?_of_hidden hm he (x := x) (by rw [hx]; rfl) with ⟨n, hn⟩
            have hmem : x ∈ e.hiddenClasses := by simp [hx]
            exact absurd (hall x n hn).1 (Cursor.hidden_not_child hmem)
      · intro hhidden c n hc
        rw [Module.class?_eq he, hhidden, List.head?_nil, Option.none_or] at hc
        rcases Option.bind_eq_some_iff.mp hc with ⟨d, hd, hn⟩
        rcases Option.map_eq_some_iff.mp hn with ⟨n', _, heq⟩
        rcases Prod.mk.inj heq with ⟨rfl, _⟩
        exact hsound.classChild?_spec hkind hd
    · intro hchild
      rw [hbare]
      constructor
      · intro hclass
        cases hx : e.hiddenClasses with
        | nil =>
            rfl
        | cons x rest =>
            rcases Module.class?_of_hidden hm he (x := x) (by rw [hx]; rfl) with ⟨n, hn⟩
            rw [hclass] at hn
            cases hn
      · intro hhidden
        exact Module.class?_eq_none he hhidden hchild

/-- A function that declares a class. -/
def wrappedSource : Text :=
  "export default function f() \x7b class B \x7b\x7d \x7d"

/-- The class inside the function is declared although the function is exported. -/
theorem declares_exported_class_wrapped :
    ∃ m e, Module.parse wrappedSource = .ok m ∧ m.defaultExports.head? = some e ∧
      e.classChild? = none ∧ e.hiddenClasses ≠ [] ∧
      (Declaration.ofSource {} "m" wrappedSource).value ≠ .ok (bareText {} "m") := by
  have hchecked : (Module.parse wrappedSource).toOption.any (fun m =>
      m.defaultExports.head?.any fun e =>
        e.classChild?.isNone && !e.hiddenClasses.isEmpty) = true := by
    decide +kernel
  rcases Module.exists_of_any hchecked with ⟨m, hm, hexport⟩
  cases he : m.defaultExports.head? with
  | none =>
      rw [he] at hexport
      cases hexport
  | some e =>
      rw [he, Option.any_some, Bool.and_eq_true] at hexport
      have hchild : e.classChild? = none := by
        simpa using hexport.1
      have hhidden : e.hiddenClasses ≠ [] := by
        simpa using hexport.2
      rcases (declares_exported_class_iff hm {} "m").2.2 e he with ⟨_, hbare⟩
      exact ⟨m, e, hm, he, hchild, hhidden, fun h => hhidden ((hbare hchild).mp h)⟩

end ComponentDecl
