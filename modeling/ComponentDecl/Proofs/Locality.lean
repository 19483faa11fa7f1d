import ComponentDecl.Proofs.View
import Mathlib.Data.List.Forall2

/-!
# What a declaration depends on

A declaration depends on what is seen of the first default export and of the sibling before
it, and on nothing else of the module.  Two cursors below two exports correspond if the same
is seen at them and above them up to the exports, and every move from corresponding cursors
leads to corresponding cursors.
-/

namespace ComponentDecl

/-!
# Lists in step

Lists whose elements correspond one by one.
-/

section InStep

variable {α β : Type} {R : α → β → Prop} {xs : List α} {ys : List β}

theorem forall₂_of_map_eq {γ : Type} {f : α → γ} {g : β → γ} (h : xs.map f = ys.map g)
    (hR : ∀ x ∈ xs, ∀ y ∈ ys, f x = g y → R x y) : List.Forall₂ R xs ys := by
  induction xs generalizing ys with
  | nil =>
      rw [List.map_nil, eq_comm, List.map_eq_nil_iff] at h
      rw [h]
      exact .nil
  | cons x xs ih =>
      cases ys with
      | nil =>
          cases h
      | cons y ys =>
          rcases List.cons.inj h with ⟨hhead, htail⟩
          apply List.Forall₂.cons
          · exact hR x List.mem_cons_self y List.mem_cons_self hhead
          · apply ih htail
            intro x' hx' y' hy'
            exact hR x' (List.mem_cons_of_mem x hx') y' (List.mem_cons_of_mem y hy')

theorem forall₂_flatMap {f : α → List α} {g : β → List β} (h : List.Forall₂ R xs ys)
    (hfg : ∀ x ∈ xs, ∀ y, R x y → List.Forall₂ R (f x) (g y)) :
    List.Forall₂ R (xs.flatMap f) (ys.flatMap g) := by
  induction h with
  | nil =>
      exact .nil
  | @cons x y xs ys hxy _ ih =>
      rw [List.flatMap_cons, List.flatMap_cons]
      apply List.rel_append
      · exact hfg x List.mem_cons_self y hxy
      · apply ih
        intro x' hx'
        exact hfg x' (List.mem_cons_of_mem x hx')

theorem rel_find? {S : α → β → Prop} {p : α → Bool} {q : β → Bool}
    (h : List.Forall₂ R xs ys) (hpq : ∀ x y, R x y → p x = q y)
    (hS : ∀ x y, R x y → S x y) : Option.Rel S (xs.find? p) (ys.find? q) := by
  induction h with
  | nil =>
      exact .none
  | @cons x y xs ys hxy _ ih =>
      rw [List.find?_cons, List.find?_cons, hpq x y hxy]
      cases q y with
      | false =>
          exact ih
      | true =>
          exact .some (hS x y hxy)

theorem rel_filter? {p : α → Bool} {q : β → Bool} {a : Option α} {b : Option β}
    (h : Option.Rel R a b) (hpq : ∀ x y, R x y → p x = q y) :
    Option.Rel R (a.filter p) (b.filter q) := by
  cases h with
  | none =>
      exact .none
  | @some x y hxy =>
      rw [Option.filter_some, Option.filter_some, hpq x y hxy]
      cases q y with
      | false =>
          exact .none
      | true =>
          exact .some hxy

theorem rel_bind {γ δ : Type} {S : γ → δ → Prop} {f : α → Option γ} {g : β → Option δ}
    {a : Option α} {b : Option β} (h : Option.Rel R a b)
    (hfg : ∀ x y, R x y → Option.Rel S (f x) (g y)) : Option.Rel S (a.bind f) (b.bind g) := by
  cases h with
  | none =>
      exact .none
  | @some x y hxy =>
      exact hfg x y hxy

theorem bind_eq_of_rel {γ : Type} {f : α → Option γ} {g : β → Option γ} {a : Option α}
    {b : Option β} (h : Option.Rel R a b) (hfg : ∀ x y, R x y → f x = g y) :
    a.bind f = b.bind g := by
  cases h with
  | none =>
      rfl
  | @some x y hxy =>
      exact hfg x y hxy

theorem any_eq_of_rel {p : α → Bool} {q : β → Bool} {a : Option α} {b : Option β}
    (h : Option.Rel R a b) (hpq : ∀ x y, R x y → p x = q y) : a.any p = b.any q := by
  cases h with
  | none =>
      rfl
  | @some x y hxy =>
      exact hpq x y hxy

theorem rel_head? (h : List.Forall₂ R xs ys) : Option.Rel R xs.head? ys.head? := by
  cases h with
  | nil =>
      exact .none
  | cons hxy _ =>
      exact .some hxy

theorem rel_getLast? (h : List.Forall₂ R xs ys) : Option.Rel R xs.getLast? ys.getLast? := by
  rw [List.getLast?_eq_head?_reverse, List.getLast?_eq_head?_reverse]
  exact rel_head? (List.forall₂_reverse_iff.mpr h)

theorem filterMap_eq_of_forall₂ {γ : Type} {f : α → Option γ} {g : β → Option γ}
    (h : List.Forall₂ R xs ys) (hfg : ∀ x y, R x y → f x = g y) :
    xs.filterMap f = ys.filterMap g := by
  induction h with
  | nil =>
      rfl
  | @cons x y xs ys hxy _ ih =>
      rw [List.filterMap_cons, List.filterMap_cons, hfg x y hxy, ih]

end InStep

/-!
# Corresponding cursors
-/

namespace Cursor

/-- Cursors at and below two others that are reached in the same way: at each step down, the
same is seen of both pieces among their siblings. -/
inductive Alike (e₁ e₂ : Cursor) : Cursor → Cursor → Prop where
  | top : Alike e₁ e₂ e₁ e₂
  | under {p₁ p₂ c₁ c₂ : Cursor} (hp : Alike e₁ e₂ p₁ p₂) (h₁ : c₁ ∈ p₁.children)
      (h₂ : c₂ ∈ p₂.children) (h : c₁.glimpse = c₂.glimpse) : Alike e₁ e₂ c₁ c₂

/-- Exports in sound trees of which the same is seen, as of the named siblings before
them. -/
structure Twins (e₁ e₂ : Cursor) : Prop where
  sound₁ : e₁.Sound
  sound₂ : e₂.Sound
  export₁ : e₁.isA .exportStatement = true
  view : e₁.tree.view? = e₂.tree.view?
  previous : e₁.previous?.map outline = e₂.previous?.map outline

namespace Alike

variable {e₁ e₂ c₁ c₂ : Cursor}

theorem sound (h : Alike e₁ e₂ c₁ c₂) (he : Twins e₁ e₂) : c₁.Sound ∧ c₂.Sound := by
  induction h with
  | top =>
      exact ⟨he.sound₁, he.sound₂⟩
  | under _ h₁ h₂ _ ih =>
      exact ⟨ih.1.children h₁, ih.2.children h₂⟩

theorem view (h : Alike e₁ e₂ c₁ c₂) (he : Twins e₁ e₂) : c₁.tree.view? = c₂.tree.view? := by
  cases h with
  | top =>
      exact he.view
  | under _ _ _ h =>
      exact congrArg (fun g => g.2.2) h

theorem kind? (h : Alike e₁ e₂ c₁ c₂) (he : Twins e₁ e₂) : c₁.kind? = c₂.kind? := by
  rw [Cursor.kind?, Cursor.kind?, Tree.kind?_eq, Tree.kind?_eq, h.view he]

theorem isA (h : Alike e₁ e₂ c₁ c₂) (he : Twins e₁ e₂) (k : Kind) : c₁.isA k = c₂.isA k := by
  rw [Cursor.isA, Cursor.isA, h.kind? he]

theorem isNamed (h : Alike e₁ e₂ c₁ c₂) (he : Twins e₁ e₂) :
    c₁.tree.isNamed = c₂.tree.isNamed := by
  rw [Tree.isNamed, Tree.isNamed, Tree.kind?_eq, Tree.kind?_eq, h.view he]

theorem exists_view (h : Alike e₁ e₂ c₁ c₂) (he : Twins e₁ e₂) : ∃ v, c₁.tree.view? = some v := by
  cases h with
  | top =>
      have hkind : e₁.tree.kind? = some .exportStatement := eq_of_beq he.export₁
      rw [Tree.kind?_eq] at hkind
      rcases Option.bind_eq_some_iff.mp hkind with ⟨v, hv, _⟩
      exact ⟨v, hv⟩
  | under _ h₁ _ _ =>
      have hgap := (List.mem_filter.mp h₁).2
      rw [Tree.isGap_eq] at hgap
      cases hv : c₁.tree.view? with
      | none =>
          rw [hv] at hgap
          cases hgap
      | some v =>
          exact ⟨v, rfl⟩

theorem text (h : Alike e₁ e₂ c₁ c₂) (he : Twins e₁ e₂) : c₁.text = c₂.text := by
  rcases h.exists_view he with ⟨v, hv⟩
  have h₁ := outline_of_view hv
  rw [h.view he] at hv
  have h₂ := outline_of_view hv
  exact congrArg Prod.snd (h₁.trans h₂.symm)

/-!
# Moving in step
-/

theorem children (h : Alike e₁ e₂ c₁ c₂) (he : Twins e₁ e₂) :
    List.Forall₂ (fun d₁ d₂ => Alike e₁ e₂ d₁ d₂ ∧ d₁.field = d₂.field) c₁.children
      c₂.children := by
  have hmap : c₁.children.map glimpse = c₂.children.map glimpse := by
    rw [map_glimpse_children, map_glimpse_children, h.view he]
  apply forall₂_of_map_eq hmap
  intro d₁ hd₁ d₂ hd₂ hd
  exact ⟨.under h hd₁ hd₂ hd, congrArg (fun g => g.2.1) hd⟩

theorem namedChildren (h : Alike e₁ e₂ c₁ c₂) (he : Twins e₁ e₂) :
    List.Forall₂ (Alike e₁ e₂) c₁.namedChildren c₂.namedChildren := by
  have hchildren := (h.children he).imp fun _ _ hd => hd.1
  apply List.rel_filter _ hchildren
  intro d₁ d₂ hd
  show d₁.tree.isNamed = true ↔ d₂.tree.isNamed = true
  rw [hd.isNamed he]

theorem fieldNamed (h : Alike e₁ e₂ c₁ c₂) (he : Twins e₁ e₂) (f : Field) :
    Option.Rel (Alike e₁ e₂) (c₁.fieldNamed f) (c₂.fieldNamed f) := by
  have hfind : Option.Rel (Alike e₁ e₂) (c₁.children.find? fun d => d.field == some f)
      (c₂.children.find? fun d => d.field == some f) := by
    apply rel_find? (h.children he)
    · intro d₁ d₂ hd
      rw [hd.2]
    · intro d₁ d₂ hd
      exact hd.1
  apply rel_filter? hfind
  intro d₁ d₂ hd
  exact hd.isNamed he

theorem nodes (h : Alike e₁ e₂ c₁ c₂) (he : Twins e₁ e₂) :
    List.Forall₂ (Alike e₁ e₂) c₁.nodes c₂.nodes := by
  -- going down from the first cursor; the second follows, as its children correspond
  induction c₁ using children_induction generalizing c₂ with
  | step c₁ ih =>
      have hnamed := h.isNamed he
      cases hc : c₁.tree.isNamed with
      | false =>
          rw [hc] at hnamed
          rw [nodes_eq_nil_of_not_isNamed hc, nodes_eq_nil_of_not_isNamed hnamed.symm]
          exact .nil
      | true =>
          rw [hc] at hnamed
          rw [nodes_of_isNamed hc, nodes_of_isNamed hnamed.symm]
          apply List.Forall₂.cons h
          apply forall₂_flatMap (h.namedChildren he)
          intro d₁ hd₁ d₂ hd
          exact ih d₁ (mem_children_of_mem_namedChildren hd₁) hd

/-!
# Classes
-/

theorem depth_le (h : Alike e₁ e₂ c₁ c₂) : e₁.depth ≤ c₁.depth ∧ e₂.depth ≤ c₂.depth := by
  induction h with
  | top =>
      exact ⟨Nat.le_refl _, Nat.le_refl _⟩
  | under _ h₁ h₂ _ ih =>
      have hd₁ := depth_of_parent? (parent?_of_mem_children h₁)
      have hd₂ := depth_of_parent? (parent?_of_mem_children h₂)
      omega

theorem isSame (h : Alike e₁ e₂ c₁ c₂) : c₁.isSame e₁ = c₂.isSame e₂ := by
  cases h with
  | top =>
      rw [Cursor.isSame, Cursor.isSame, beq_self_eq_true, beq_self_eq_true]
  | @under p₁ p₂ _ _ hp h₁ h₂ _ =>
      -- both lie deeper than the exports
      have hd₁ := depth_of_parent? (parent?_of_mem_children h₁)
      have hd₂ := depth_of_parent? (parent?_of_mem_children h₂)
      have hle := hp.depth_le
      have hne : ∀ {c e : Cursor}, e.depth < c.depth → c.isSame e = false := by
        intro c e hlt
        rw [Cursor.isSame, beq_eq_false_iff_ne]
        intro heq
        rw [depth, depth, heq] at hlt
        omega
      rw [hne (by omega), hne (by omega)]

theorem isChildOf (h : Alike e₁ e₂ c₁ c₂) : c₁.isChildOf e₁ = c₂.isChildOf e₂ := by
  cases h with
  | top =>
      rw [not_isChildOf_self, not_isChildOf_self]
  | under hp h₁ h₂ _ =>
      rw [Cursor.isChildOf, Cursor.isChildOf, parent?_of_mem_children h₁,
        parent?_of_mem_children h₂]
      exact hp.isSame

theorem classes (he : Twins e₁ e₂) : List.Forall₂ (Alike e₁ e₂) e₁.classes e₂.classes := by
  apply List.rel_filter _ (Alike.top.nodes he)
  intro c₁ c₂ h
  show isClassOf e₁ c₁ = true ↔ isClassOf e₂ c₂ = true
  rw [isClassOf, isClassOf, h.isA he, h.isA he, h.isChildOf]

/-!
# Documentation
-/

theorem doc? (h : Alike e₁ e₂ c₁ c₂) (he : Twins e₁ e₂) : c₁.doc? = c₂.doc? := by
  rw [doc?_eq, doc?_eq]
  cases h with
  | top =>
      rw [he.previous]
  | under _ _ _ h =>
      have hleft : Tree.views c₁.left = Tree.views c₂.left := congrArg Prod.fst h
      rw [previous?_outline, previous?_outline, hleft]

/-- A class is documented inside its export or in front of it. -/
theorem documented (h : Alike e₁ e₂ c₁ c₂) (he : Twins e₁ e₂)
    (hc : c₁.isA .exportStatement = false) : c₁.documented.doc? = c₂.documented.doc? := by
  have hunder := h
  cases h with
  | top =>
      rw [he.export₁] at hc
      cases hc
  | @under p₁ p₂ _ _ hp h₁ h₂ _ =>
      -- the parent may be the export itself, never a piece above it
      rw [Cursor.documented, Cursor.documented, parent?_of_mem_children h₁,
        parent?_of_mem_children h₂]
      dsimp only
      rw [hp.isA he]
      split
      · exact hp.doc? he
      · exact hunder.doc? he

/-!
# Props
-/

theorem memberName? (h : Alike e₁ e₂ c₁ c₂) (he : Twins e₁ e₂) :
    c₁.memberName? = c₂.memberName? := by
  rw [Cursor.memberName?, Cursor.memberName?, h.kind? he, h.text he]

theorem prop? (h : Alike e₁ e₂ c₁ c₂) (he : Twins e₁ e₂) (o : InferenceOptions) :
    c₁.prop? o = c₂.prop? o := by
  apply bind_eq_of_rel (h.fieldNamed he .key)
  intro key₁ key₂ hkey
  apply bind_eq_of_rel (h.fieldNamed he .value)
  intro value₁ value₂ hvalue
  rcases hvalue.sound he with ⟨hs₁, hs₂⟩
  rw [hkey.memberName? he, h.doc? he,
    Tree.declaredType_congr hs₁.tree hs₂.tree (hvalue.view he) o]

theorem propsOf (h : Alike e₁ e₂ c₁ c₂) (he : Twins e₁ e₂) (o : InferenceOptions) :
    c₁.propsOf o = c₂.propsOf o := by
  have hpairs : List.Forall₂ (Alike e₁ e₂) (c₁.namedChildren.filter (Cursor.isA .pair))
      (c₂.namedChildren.filter (Cursor.isA .pair)) := by
    apply List.rel_filter _ (h.namedChildren he)
    intro d₁ d₂ hd
    show d₁.isA .pair = true ↔ d₂.isA .pair = true
    rw [hd.isA he]
  apply filterMap_eq_of_forall₂ hpairs
  intro d₁ d₂ hd
  exact hd.prop? he o

theorem isPropTypes (h : Alike e₁ e₂ c₁ c₂) (he : Twins e₁ e₂) :
    c₁.isPropTypes = c₂.isPropTypes := by
  rw [Cursor.isPropTypes, Cursor.isPropTypes, h.isA he]
  congr 1
  apply any_eq_of_rel (h.fieldNamed he .property)
  intro p₁ p₂ hp
  rw [hp.text he]

theorem initializer? (h : Alike e₁ e₂ c₁ c₂) (he : Twins e₁ e₂) :
    Option.Rel (Alike e₁ e₂) c₁.initializer? c₂.initializer? := by
  apply rel_bind (h.fieldNamed he .body)
  intro body₁ body₂ hbody
  have hfields : List.Forall₂ (Alike e₁ e₂) (body₁.namedChildren.filter Cursor.isPropTypes)
      (body₂.namedChildren.filter Cursor.isPropTypes) := by
    apply List.rel_filter _ (hbody.namedChildren he)
    intro d₁ d₂ hd
    show d₁.isPropTypes = true ↔ d₂.isPropTypes = true
    rw [hd.isPropTypes he]
  apply rel_bind (rel_getLast? hfields)
  intro field₁ field₂ hfield
  exact hfield.fieldNamed he .value

theorem table? (h : Alike e₁ e₂ c₁ c₂) (he : Twins e₁ e₂) (o : InferenceOptions) :
    c₁.table? o = c₂.table? o := by
  apply bind_eq_of_rel (h.initializer? he)
  intro value₁ value₂ hvalue
  rw [hvalue.isA he, hvalue.propsOf he]

end Alike

/-!
# The component of an export
-/

/-- The component that an export declares. -/
def described (o : InferenceOptions) (e : Cursor) : Option Component := do
  let c ← e.classes.head?
  let n ← c.fieldNamed .name
  return ⟨n.text, c.documented.doc?, c.table? o⟩

theorem isA_exportStatement_of_mem_classes {e c : Cursor} (h : c ∈ e.classes) :
    c.isA .exportStatement = false := by
  rcases (mem_classes.mp h).2 with hc | ⟨hc, _⟩
  · have hkind : c.kind? = some .classDeclaration := eq_of_beq hc
    rw [isA, hkind]
    rfl
  · have hkind : c.kind? = some .classExpression := eq_of_beq hc
    rw [isA, hkind]
    rfl

theorem Twins.described {e₁ e₂ : Cursor} (he : Twins e₁ e₂) (o : InferenceOptions) :
    e₁.described o = e₂.described o := by
  have hclasses : List.Forall₂ (fun c₁ c₂ => c₁ ∈ e₁.classes ∧ Alike e₁ e₂ c₁ c₂) e₁.classes
      e₂.classes :=
    (List.forall₂_and_left _ _).mpr ⟨fun _ hc => hc, Alike.classes he⟩
  apply bind_eq_of_rel (rel_head? hclasses)
  rintro c₁ c₂ ⟨hc₁, hc⟩
  apply bind_eq_of_rel (hc.fieldNamed he .name)
  intro n₁ n₂ hn
  rw [hn.text he, hc.table? he o,
    hc.documented he (isA_exportStatement_of_mem_classes hc₁)]

end Cursor

namespace Module

theorem selected_eq_bind (o : InferenceOptions) (m : Module) :
    m.selected o = m.defaultExports.head?.bind (Cursor.described o) := by
  unfold selected class? Cursor.described
  cases m.defaultExports.head? with
  | none =>
      rfl
  | some e =>
      cases hc : e.classes.head? with
      | none =>
          simp [hc]
      | some c =>
          cases hn : c.fieldNamed .name <;> simp [hc, hn]

theorem sound_of_defaultExports {source : Text} {m : Module}
    (hm : parse source = .ok m) {e : Cursor} (h : m.defaultExports.head? = some e) : e.Sound :=
  (sound_root hm).nodes (mem_nodes_of_defaultExports h)

end Module

/-- What is seen of the first default export of a module, if there is one, and of the named
sibling before it. -/
def Module.exportSeen (m : Module) : Option (Option View × Option (Option Kind × Text)) :=
  m.defaultExports.head?.map fun e => (e.tree.view?, e.previous?.map Cursor.outline)

/-- The declaration of a module is the same for every module in which the same is seen of the
first default export and of the named sibling before it.  Modules without a default export
are all declared alike. -/
theorem declaration_depends_on_export {source₁ source₂ : Text} {m₁ m₂ : Module}
    (hm₁ : Module.parse source₁ = .ok m₁) (hm₂ : Module.parse source₂ = .ok m₂)
    (hseen : m₁.exportSeen = m₂.exportSeen) (o : Options) (name : Text) :
    ∃ text, (Declaration.ofSource o name source₁).value = .ok text ∧
      (Declaration.ofSource o name source₂).value = .ok text := by
  have hselected : m₁.selected o.inference = m₂.selected o.inference := by
    rw [Module.selected_eq_bind, Module.selected_eq_bind]
    unfold Module.exportSeen at hseen
    cases h₁ : m₁.defaultExports.head? with
    | none =>
        rw [h₁, Option.map_none, eq_comm, Option.map_eq_none_iff] at hseen
        rw [hseen]
    | some e₁ =>
        rw [h₁, Option.map_some, eq_comm] at hseen
        rcases Option.map_eq_some_iff.mp hseen with ⟨e₂, h₂, hpair⟩
        rcases Prod.mk.inj hpair with ⟨hview, hprevious⟩
        have htwins : e₁.Twins e₂ :=
          { sound₁ := Module.sound_of_defaultExports hm₁ h₁
            sound₂ := Module.sound_of_defaultExports hm₂ h₂
            export₁ := Module.isA_of_defaultExports h₁
            view := hview.symm
            previous := hprevious.symm }
        rw [h₂]
        exact htwins.described o.inference
  refine ⟨Declaration.text o name (m₁.selected o.inference), ?_, ?_⟩
  · exact (Declaration.ofSource_spec hm₁ o name).1
  · rw [hselected]
    exact (Declaration.ofSource_spec hm₂ o name).1

/-- A documented component. -/
def loneSource : Text :=
  "/** A */
export default class A \x7b static propTypes = \x7b a: 1 \x7d \x7d"

/-- The same component inside a block, between a class and another export. -/
def buriedSource : Text :=
  "class B \x7b static propTypes \x7d
\x7b /** A */  export default class A \x7b static propTypes = \x7b a: 1 \x7d \x7d \x7d
export default B"

theorem declaration_depends_on_export_buried :
    ∃ m₁ m₂, Module.parse loneSource = .ok m₁ ∧ Module.parse buriedSource = .ok m₂ ∧
      m₁.exportSeen = m₂.exportSeen ∧ m₁.exportSeen.isSome = true ∧
      ∃ text, (Declaration.ofSource {} "m" loneSource).value = .ok text ∧
        (Declaration.ofSource {} "m" buriedSource).value = .ok text := by
  have hcheck : (Module.parse loneSource).toOption.any (fun m₁ =>
      (Module.parse buriedSource).toOption.any fun m₂ =>
        m₁.exportSeen.isSome && m₁.exportSeen == m₂.exportSeen) = true := by
    decide +kernel
  rcases Module.exists_of_any hcheck with ⟨m₁, hm₁, hburied⟩
  rcases Module.exists_of_any hburied with ⟨m₂, hm₂, hboth⟩
  rcases Bool.and_eq_true_iff.mp hboth with ⟨hsome, hsame⟩
  have hseen := eq_of_beq hsame
  exact ⟨m₁, m₂, hm₁, hm₂, hseen, hsome, declaration_depends_on_export hm₁ hm₂ hseen {} "m"⟩

end ComponentDecl
