import ComponentDecl.Declaration
import ComponentDecl.Proofs.Navigation
import ComponentDecl.Proofs.Walk

/-!
# Which class is declared

The walks that look for the component visit every node and keep what they found in a
state.  Here the component is described without walks: by the lists of default exports, of
classes and of fields that come into question, and by their first or last element.
-/

namespace ComponentDecl

/-!
# The description
-/

namespace Cursor

/-- Whether the cursor is at a default export. -/
def isDefaultExport (c : Cursor) : Bool :=
  c.isA .exportStatement && c.hasToken "default"

/-- Whether a node below an export counts as a class: any class that is declared, and a
class expression right below the export. -/
def isClassOf (e c : Cursor) : Bool :=
  c.isA .classDeclaration || (c.isA .classExpression && c.isChildOf e)

/-- The classes of an export, in pre-order. -/
def classes (e : Cursor) : List Cursor :=
  e.nodes.filter (isClassOf e)

/-- Whether the cursor is at a field named `propTypes`. -/
def isPropTypes (c : Cursor) : Bool :=
  c.isA .fieldDefinition && (c.fieldNamed .property).any fun p => p.text == "propTypes".toList

/-- The initial value of the last field `propTypes` in the body of a class. -/
def initializer? (c : Cursor) : Option Cursor := do
  let body ← c.fieldNamed .body
  let field ← (body.namedChildren.filter isPropTypes).getLast?
  field.fieldNamed .value

/-- The prop that a pair of an object literal gives, if its key names a member. -/
def prop? (o : InferenceOptions) (pair : Cursor) : Option (Text × PropEntry) := do
  let key ← pair.fieldNamed .key
  let value ← pair.fieldNamed .value
  let name ← key.memberName?
  return (name, ⟨value.tree.declaredType o, pair.doc?⟩)

/-- The props that an object literal gives, in order. -/
def propsOf (o : InferenceOptions) (object : Cursor) : List (Text × PropEntry) :=
  (object.namedChildren.filter (isA .pair)).filterMap (prop? o)

/-- The table of the props of a class. -/
def table? (o : InferenceOptions) (c : Cursor) : Option PropTable := do
  let value ← c.initializer?
  if value.isA .object then some (PropTable.ofList (value.propsOf o)) else none

/-- The warnings about further classes of an export. -/
def classWarnings (e : Cursor) : List Notice :=
  match e.classes with
  | [] => []
  | d :: rest => rest.map fun c => .classIgnored c.span.line c.classLabel d.classLabel

end Cursor

namespace Module

/-- The default exports of a module, in pre-order. -/
def defaultExports (m : Module) : List Cursor :=
  m.root.nodes.filter Cursor.isDefaultExport

/-- The class that is declared: the first class of the first default export, if it has a
name. -/
def class? (m : Module) : Option (Cursor × Cursor) := do
  let e ← m.defaultExports.head?
  let c ← e.classes.head?
  let n ← c.fieldNamed .name
  return (c, n)

/-- The component of a module by its description. -/
def selected (o : InferenceOptions) (m : Module) : Option Component :=
  m.class?.map fun (c, n) => ⟨n.text, c.documented.doc?, c.table? o⟩

/-- The warnings about a module: one for each further default export, then one for each
further class of the first. -/
def selectionWarnings (m : Module) : List Notice :=
  m.defaultExports.tail.map (fun x => .exportIgnored x.span.line) ++
    (m.defaultExports.head?.map Cursor.classWarnings).getD []

end Module

/-!
# The default export
-/

namespace Cursor

theorem value_keepExport (c : Cursor) (found : Option Cursor) :
    (keepExport c found).value =
      if c.hasToken "default" then found.or (some c) else found := by
  unfold keepExport
  split
  · cases found <;> rfl
  · rfl

theorem warnings_keepExport_some (c e : Cursor) :
    (keepExport c (some e)).warnings =
      if c.hasToken "default" then [.exportIgnored c.span.line] else [] := by
  unfold keepExport
  split <;> rfl

theorem warnings_keepExport_none (c : Cursor) : (keepExport c none).warnings = [] := by
  unfold keepExport
  split <;> rfl

theorem defaultExport_spec (c : Cursor) :
    c.defaultExport.value = (c.nodes.filter isDefaultExport).head? ∧
      c.defaultExport.warnings =
        (c.nodes.filter isDefaultExport).tail.map fun x => .exportIgnored x.span.line := by
  have hk : Kind.exportStatement ∈ Kind.handled := by decide
  unfold defaultExport
  rw [walk_eq_foldlM]
  have hfold := foldlM_keepFirst
    (f := fun s d =>
      (Handlers.empty.on Kind.exportStatement.spelling keepExport).dispatch d s)
    (p := isDefaultExport) (w := fun x _ => .exportIgnored x.span.line)
    (by
      intro s x
      rw [Handlers.value_dispatch_on hk, value_keepExport, isDefaultExport]
      by_cases ha : x.isA .exportStatement <;> simp [ha, -String.reduceToList])
    (by
      intro d x
      rw [Handlers.warnings_dispatch_on hk, warnings_keepExport_some, isDefaultExport]
      by_cases ha : x.isA .exportStatement <;> simp [ha, -String.reduceToList])
    (by
      intro x
      rw [Handlers.warnings_dispatch_on hk, warnings_keepExport_none]
      simp)
    c.nodes
  constructor
  · exact hfold.1
  · rw [hfold.2]
    cases c.nodes.filter isDefaultExport <;> rfl

/-!
# The class
-/

theorem value_keepClass (c : Cursor) (found : Option Cursor) :
    (keepClass c found).value = found.or (some c) := by
  cases found <;> rfl

theorem warnings_keepClass_some (c d : Cursor) :
    (keepClass c (some d)).warnings = [.classIgnored c.span.line c.classLabel d.classLabel] :=
  rfl

theorem warnings_keepClass_none (c : Cursor) : (keepClass c none).warnings = [] :=
  rfl

theorem value_keepExportedClass (e c : Cursor) (found : Option Cursor) :
    (keepExportedClass e c found).value =
      if c.isChildOf e then found.or (some c) else found := by
  unfold keepExportedClass
  split
  · exact value_keepClass c found
  · rfl

theorem warnings_keepExportedClass (e c : Cursor) (found : Option Cursor) :
    (keepExportedClass e c found).warnings =
      if c.isChildOf e then (keepClass c found).warnings else [] := by
  unfold keepExportedClass
  split <;> rfl

theorem isA_eq_false {c : Cursor} {k l : Kind} (h : c.isA k = true) (hne : k ≠ l) :
    c.isA l = false := by
  rw [isA, eq_of_beq h]
  simpa using hne

theorem exportedClass_spec (e : Cursor) :
    e.exportedClass.value = e.classes.head? ∧ e.exportedClass.warnings = e.classWarnings := by
  have hd : Kind.classDeclaration ∈ Kind.handled := by decide
  have hx : Kind.classExpression ∈ Kind.handled := by decide
  unfold exportedClass
  rw [walk_eq_foldlM]
  have hfold := foldlM_keepFirst
    (f := fun s d =>
      ((Handlers.empty.on Kind.classDeclaration.spelling keepClass).on
        Kind.classExpression.spelling (keepExportedClass e)).dispatch d s)
    (p := isClassOf e)
    (w := fun c d => .classIgnored c.span.line c.classLabel d.classLabel)
    (by
      intro s x
      rw [Handlers.value_dispatch_on hx, Handlers.value_dispatch_on hd, isClassOf]
      by_cases hc : x.isA .classExpression
      · have ha : x.isA .classDeclaration = false := isA_eq_false hc (by decide)
        simp [hc, ha, value_keepExportedClass]
      · by_cases ha : x.isA .classDeclaration <;> simp [hc, ha, value_keepClass])
    (by
      intro d x
      rw [Handlers.warnings_dispatch_on hx, Handlers.warnings_dispatch_on hd, isClassOf]
      by_cases hc : x.isA .classExpression
      · have ha : x.isA .classDeclaration = false := isA_eq_false hc (by decide)
        simp [hc, ha, warnings_keepExportedClass, warnings_keepClass_some]
      · by_cases ha : x.isA .classDeclaration <;> simp [hc, ha, warnings_keepClass_some])
    (by
      intro x
      rw [Handlers.warnings_dispatch_on hx, Handlers.warnings_dispatch_on hd]
      simp [warnings_keepExportedClass, warnings_keepClass_none])
    e.nodes
  constructor
  · exact hfold.1
  · rw [hfold.2]
    unfold classWarnings classes
    cases e.nodes.filter (isClassOf e) <;> rfl

/-- The classes of an export are the declared classes below it at any depth and the class
expressions whose parent it is. -/
theorem mem_classes {e c : Cursor} :
    c ∈ e.classes ↔
      c ∈ e.nodes ∧
        (c.isA .classDeclaration = true ∨
          c.isA .classExpression = true ∧ c.parent? = some e) := by
  unfold classes isClassOf
  rw [List.mem_filter, Bool.or_eq_true, Bool.and_eq_true]
  constructor
  · rintro ⟨hc, h | ⟨hx, hp⟩⟩
    · exact ⟨hc, Or.inl h⟩
    · exact ⟨hc, Or.inr ⟨hx, (isChildOf_iff_parent? hc).mp hp⟩⟩
  · rintro ⟨hc, h | ⟨hx, hp⟩⟩
    · exact ⟨hc, Or.inl h⟩
    · exact ⟨hc, Or.inr ⟨hx, (isChildOf_iff_parent? hc).mpr hp⟩⟩

theorem componentClass_spec (e : Cursor) :
    e.componentClass.value =
        (e.classes.head?.bind fun c => (c.fieldNamed .name).map fun n => (c, n.text)) ∧
      e.componentClass.warnings = e.classWarnings := by
  rcases exportedClass_spec e with ⟨hv, hw⟩
  unfold componentClass
  rw [Logged.value_bind, Logged.warnings_bind, hv, hw]
  cases e.classes.head? with
  | none =>
      simp
  | some c =>
      cases hn : c.fieldNamed .name with
      | none =>
          simp [hn, Logged.warnings_tell, Notice.level, Level.covers, Level.rank]
      | some n =>
          simp [hn]

/-!
# The props

The walk over the body of a class also meets the fields of classes inside it.  Keeping the
last field whose parent is the body is keeping the last among the children of the body.
-/

theorem keepPropTypes_eq (body c : Cursor) (found : Option Cursor) :
    keepPropTypes body c found =
      pure (if c.isChildOf body &&
          (c.fieldNamed .property).any (fun p => p.text == "propTypes".toList)
        then some c else found) := by
  unfold keepPropTypes
  cases c.fieldNamed .property <;> rfl

theorem filter_own_propTypes (body : Cursor) :
    body.nodes.filter (fun c => c.isChildOf body && c.isPropTypes) =
      body.namedChildren.filter isPropTypes := by
  rw [← filter_nodes_isChildOf, List.filter_filter]
  apply List.filter_congr
  intro c _
  rw [Bool.and_comm]

theorem propTypesValue_spec (c : Cursor) :
    c.propTypesValue.value = c.initializer? ∧ c.propTypesValue.warnings = [] := by
  have hk : Kind.fieldDefinition ∈ Kind.handled := by decide
  unfold propTypesValue initializer?
  cases c.fieldNamed .body with
  | none =>
      exact ⟨rfl, rfl⟩
  | some body =>
      have hfold := foldlM_keepLast
        (f := fun s d =>
          (Handlers.empty.on Kind.fieldDefinition.spelling (keepPropTypes body)).dispatch d s)
        (p := fun c => c.isChildOf body && c.isPropTypes)
        (by
          intro s x
          rw [Handlers.value_dispatch_on hk, keepPropTypes_eq, isPropTypes]
          by_cases ha : x.isA .fieldDefinition <;> simp [ha, -String.reduceToList])
        (by
          intro s x
          rw [Handlers.warnings_dispatch_on hk, keepPropTypes_eq, Logged.warnings_pure,
            Handlers.dispatch_empty, Logged.warnings_pure, ite_self])
        body.nodes none
      rw [Option.or_none, filter_own_propTypes] at hfold
      simp only [walk_eq_foldlM, Logged.value_bind, Logged.warnings_bind, hfold.1, hfold.2]
      exact ⟨rfl, rfl⟩

end Cursor

/-!
# The table
-/

namespace PropTable

theorem value_enterPair (o : InferenceOptions) (object pair : Cursor) (t : PropTable) :
    (enterPair o object pair t).value =
      if pair.isChildOf object then
        match pair.prop? o with
        | some p => t.insert p.1 p.2
        | none => t
      else t := by
  unfold enterPair Cursor.prop?
  split
  · cases pair.fieldNamed .key with
    | none =>
        rfl
    | some key =>
        cases pair.fieldNamed .value with
        | none =>
            rfl
        | some value =>
            cases hn : key.memberName? with
            | none =>
                simp [hn]
            | some name =>
                simp [hn]
  · rfl

theorem value_ofObject (o : InferenceOptions) (object : Cursor) :
    (ofObject o object).value = ofList (object.propsOf o) := by
  have hk : Kind.pair ∈ Kind.handled := by decide
  have hfold := foldlM_value
    (f := fun s d =>
      (Handlers.empty.on Kind.pair.spelling (enterPair o object)).dispatch d s)
    (g := fun s d =>
      match (if d.isChildOf object then if d.isA .pair then d.prop? o else none else none) with
      | some p => s.insert p.1 p.2
      | none => s)
    (by
      intro s x
      rw [Handlers.value_dispatch_on hk, value_enterPair]
      by_cases ha : x.isA .pair <;> by_cases hc : x.isChildOf object <;> simp [ha, hc])
    object.nodes empty
  unfold ofObject
  simp only [walk_eq_foldlM, Logged.value_bind, hfold, Logged.value_pure, ofList, Cursor.propsOf,
    ← Cursor.filter_nodes_isChildOf, List.filterMap_filter, List.foldl_filterMap]
  congr 1
  funext s d
  split <;> simp_all

theorem warnings_enterPair (o : InferenceOptions) (object pair : Cursor) (t : PropTable) :
    (enterPair o object pair t).warnings = [] := by
  unfold enterPair
  split
  · split
    · split <;> rfl
    · rfl
  · rfl

theorem warnings_tellUntyped (cs : List Cursor) : (tellUntyped cs).warnings = [] := by
  induction cs with
  | nil =>
      rfl
  | cons c rest ih =>
      unfold tellUntyped
      cases c.kind? with
      | none =>
          exact ih
      | some k =>
          dsimp only
          split
          · rw [Logged.warnings_bind, ih]
            rfl
          · exact ih

theorem warnings_ofObject (o : InferenceOptions) (object : Cursor) :
    (ofObject o object).warnings = [] := by
  have hk : Kind.pair ∈ Kind.handled := by decide
  have hfold := foldlM_warnings_eq_nil
    (f := fun s d =>
      (Handlers.empty.on Kind.pair.spelling (enterPair o object)).dispatch d s)
    (by
      intro s x
      rw [Handlers.warnings_dispatch_on hk, warnings_enterPair]
      simp)
    object.nodes empty
  unfold ofObject
  simp only [walk_eq_foldlM, Logged.warnings_bind, hfold, warnings_tellUntyped,
    Logged.warnings_pure, List.append_nil]

end PropTable

theorem Cursor.propTable_spec (o : InferenceOptions) (c : Cursor) :
    (c.propTable o).value = c.table? o ∧ (c.propTable o).warnings = [] := by
  rcases propTypesValue_spec c with ⟨hv, hw⟩
  unfold propTable table?
  rw [Logged.value_bind, Logged.warnings_bind, hv, hw]
  cases c.initializer? with
  | none =>
      exact ⟨rfl, rfl⟩
  | some value =>
      by_cases ho : value.isA .object
      · simp [ho, PropTable.warnings_ofObject, PropTable.value_ofObject]
      · simp [ho, Logged.warnings_tell, Notice.level, Level.covers, Level.rank]

/-!
# The component
-/

theorem Module.component_spec (o : InferenceOptions) (m : Module) :
    (m.component o).value = m.selected o ∧
      (m.component o).warnings = m.selectionWarnings := by
  rcases Cursor.defaultExport_spec m.root with ⟨hev, hew⟩
  unfold component selected class? selectionWarnings defaultExports
  rw [Logged.value_bind, Logged.warnings_bind, hev, hew]
  cases (m.root.nodes.filter Cursor.isDefaultExport).head? with
  | none =>
      simp
  | some e =>
      rcases Cursor.componentClass_spec e with ⟨hcv, hcw⟩
      simp only [Logged.value_bind, Logged.warnings_bind, hcv, hcw]
      cases hc : e.classes.head? with
      | none =>
          simp [hc]
      | some c =>
          cases hn : c.fieldNamed .name with
          | none =>
              simp [hc, hn]
          | some n =>
              simp [hc, hn, Cursor.component, Cursor.propTable_spec]

/-!
# The declaration
-/

/-- A check of the module of a source, if there is one. -/
theorem Module.exists_of_any {source : Text} {p : Module → Bool}
    (h : (parse source).toOption.any p = true) : ∃ m, parse source = .ok m ∧ p m = true := by
  cases hp : parse source with
  | error e =>
      rw [hp] at h
      cases h
  | ok m =>
      rw [hp] at h
      exact ⟨m, rfl, h⟩

theorem Module.parseLogged_of_ok {source : Text} {m : Module} (hm : parse source = .ok m) :
    parseLogged source = ⟨.ok m, [.parsed (Text.bytes source)]⟩ := by
  unfold parseLogged
  rw [hm]
  rfl

theorem Declaration.ofSource_spec {source : Text} {m : Module}
    (hm : Module.parse source = .ok m) (o : Options) (name : Text) :
    (ofSource o name source).value = .ok (text o name (m.selected o.inference)) ∧
      (ofSource o name source).warnings = m.selectionWarnings := by
  rcases Module.component_spec o.inference m with ⟨hv, hw⟩
  have hs : ∀ c, (Logged.tell (summary name c)).warnings = [] := by
    intro c
    cases c <;> rfl
  unfold ofSource ofModule
  rw [Module.parseLogged_of_ok hm]
  constructor
  · simp only [Logged.value_bind, Logged.value_pure, hv]
  · simp only [Logged.warnings_bind, Logged.warnings_pure, hv, hw, hs, List.append_nil]
    rfl

/-- What is declared, and what is warned of, is what the description of the component
says. -/
theorem declares_selected_class {source : Text} {m : Module}
    (hm : Module.parse source = .ok m) (o : Options) (name : Text) :
    (Declaration.ofSource o name source).value =
        .ok (Declaration.text o name (m.selected o.inference)) ∧
      (Declaration.ofSource o name source).warnings = m.selectionWarnings ∧
      ∀ e ∈ m.defaultExports, ∀ c,
        c ∈ e.classes ↔
          c ∈ e.nodes ∧
            (c.isA .classDeclaration = true ∨
              c.isA .classExpression = true ∧ c.parent? = some e) := by
  rcases Declaration.ofSource_spec hm o name with ⟨hv, hw⟩
  refine ⟨hv, hw, ?_⟩
  intro e _ c
  exact Cursor.mem_classes

/-- A component with a class inside and two fields `propTypes`, and a second default
export. -/
def crowdedSource : Text :=
  "export default class A \x7b
    static propTypes = \x7b a: PropTypes.any \x7d;
    m() \x7b class B \x7b\x7d \x7d
    static propTypes = \x7b 'b': PropTypes.string \x7d;
  \x7d
  export default class C \x7b\x7d"

theorem declares_selected_class_crowded :
    ∃ m, Module.parse crowdedSource = .ok m ∧
      (Declaration.ofSource {} "m" crowdedSource).value =
          .ok (Declaration.text {} "m" (m.selected (Options.inference {}))) ∧
        (Declaration.ofSource {} "m" crowdedSource).warnings = m.selectionWarnings := by
  have haccepted : (Module.parse crowdedSource).toOption.any (fun _ => true) = true := by
    decide +kernel
  rcases Module.exists_of_any haccepted with ⟨m, hm, _⟩
  rcases declares_selected_class hm {} "m" with ⟨hv, hw, _⟩
  exact ⟨m, hm, hv, hw⟩

end ComponentDecl
