import ComponentDecl.Proofs.Component

/-!
# Static fields and fields of instances

The props of a class are meant to be those of its static field `propTypes`.  The search for
them asks for the name of a field alone, so a field of the instances with that name counts
like the static one, and the last of them all gives the props.
-/

namespace ComponentDecl
namespace Cursor

/-- Whether a field is marked as one of the class itself. -/
def isStatic (c : Cursor) : Bool :=
  c.hasToken "static"

/-- The fields named `propTypes` in the body of a class, static or not. -/
def propTypesFields (c : Cursor) : List Cursor :=
  match c.fieldNamed .body with
  | some body => body.namedChildren.filter isPropTypes
  | none => []

/-- The initial value of the static field `propTypes` of a class, the last if there are
several. -/
def staticInitializer? (c : Cursor) : Option Cursor := do
  let field ← (c.propTypesFields.filter isStatic).getLast?
  field.fieldNamed .value

/-- The table that an initial value gives, if it is an object literal. -/
def literalTable? (o : InferenceOptions) (value : Cursor) : Option PropTable :=
  if value.isA .object then some (PropTable.ofList (value.propsOf o)) else none

/-- The last field named `propTypes` is static, or it has no initial value and there is no
static one either. -/
def EndsStatic (c : Cursor) : Prop :=
  ∀ last ∈ c.propTypesFields.getLast?,
    last.isStatic = true ∨ last.fieldNamed .value = none ∧ c.staticInitializer? = none

instance (c : Cursor) : Decidable c.EndsStatic :=
  inferInstanceAs (Decidable (∀ last ∈ c.propTypesFields.getLast?, _))

theorem initializer?_eq (c : Cursor) :
    c.initializer? = c.propTypesFields.getLast?.bind (fieldNamed .value) := by
  unfold initializer? propTypesFields
  cases c.fieldNamed .body <;> rfl

/-- If the last field is static, then it is also the last of the static ones. -/
theorem getLast?_filter_isStatic {c last : Cursor} (hlast : c.propTypesFields.getLast? = some last)
    (hstatic : last.isStatic = true) :
    (c.propTypesFields.filter isStatic).getLast? = some last := by
  rcases List.getLast?_eq_some_iff.mp hlast with ⟨front, hfields⟩
  rw [hfields, List.filter_append, List.filter_cons_of_pos hstatic]
  exact List.getLast?_concat

/-- A value of a field of the instances is no value of a static field. -/
theorem ne_staticInitializer? {c last value : Cursor} (hstatic : ¬ last.isStatic = true)
    (hvalue : last.fieldNamed .value = some value) : some value ≠ c.staticInitializer? := by
  intro heq
  rcases Option.bind_eq_some_iff.mp heq.symm with ⟨field, hfield, hsame⟩
  have hlast := parent?_of_mem_namedChildren (fieldNamed_spec hvalue).1
  rw [parent?_of_mem_namedChildren (fieldNamed_spec hsame).1] at hlast
  rcases Option.some.inj hlast with rfl
  exact hstatic (List.mem_filter.mp (List.mem_of_getLast? hfield)).2

/-- The value that is found is the static one exactly if the fields end with a static one. -/
theorem initializer?_eq_staticInitializer?_iff (c : Cursor) :
    c.initializer? = c.staticInitializer? ↔ c.EndsStatic := by
  rw [initializer?_eq]
  constructor
  · intro heq last hlast
    rw [hlast, Option.bind_some] at heq
    by_cases hstatic : last.isStatic = true
    · exact Or.inl hstatic
    · cases hvalue : last.fieldNamed .value with
      | none =>
          rw [hvalue] at heq
          exact Or.inr ⟨rfl, heq.symm⟩
      | some value =>
          rw [hvalue] at heq
          exact absurd heq (ne_staticInitializer? hstatic hvalue)
  · intro hends
    cases hlast : c.propTypesFields.getLast? with
    | none =>
        have hnone : c.propTypesFields = [] := List.getLast?_eq_none_iff.mp hlast
        simp [staticInitializer?, hnone]
    | some last =>
        rcases hends last hlast with hstatic | ⟨hvalue, hnone⟩
        · rw [staticInitializer?, getLast?_filter_isStatic hlast hstatic]
          rfl
        · rw [hnone, Option.bind_some, hvalue]

end Cursor

/-- The props of the class that is declared are those of its static field exactly if the
fields named `propTypes` end with a static one.  Otherwise they are those of a field of the
instances. -/
theorem declares_props_of_static_field_iff {source : Text} {m : Module}
    (hm : Module.parse source = .ok m) (o : Options) (name : Text) :
    (∀ c : Cursor, c.propTypesValue.value = c.staticInitializer? ↔ c.EndsStatic) ∧
      ∀ c n, m.class? = some (c, n) →
        (c.EndsStatic → (Declaration.ofSource o name source).value =
          .ok (Declaration.text o name (some ⟨n.text, c.documented.doc?,
            c.staticInitializer?.bind (Cursor.literalTable? o.inference)⟩))) ∧
        (¬ c.EndsStatic → ∃ field, c.propTypesFields.getLast? = some field ∧
          field.isStatic = false ∧
          (Declaration.ofSource o name source).value =
            .ok (Declaration.text o name (some ⟨n.text, c.documented.doc?,
              (field.fieldNamed .value).bind (Cursor.literalTable? o.inference)⟩))) := by
  constructor
  · intro c
    rw [(Cursor.propTypesValue_spec c).1]
    exact Cursor.initializer?_eq_staticInitializer?_iff c
  · intro c n hclass
    have hdeclared : (Declaration.ofSource o name source).value =
        .ok (Declaration.text o name (some ⟨n.text, c.documented.doc?,
          c.initializer?.bind (Cursor.literalTable? o.inference)⟩)) := by
      rw [(Declaration.ofSource_spec hm o name).1, Module.selected, hclass]
      rfl
    rw [hdeclared]
    constructor
    · intro hends
      rw [(Cursor.initializer?_eq_staticInitializer?_iff c).mpr hends]
    · intro hends
      unfold Cursor.EndsStatic at hends
      push Not at hends
      rcases hends with ⟨field, hlast, hstatic, _⟩
      refine ⟨field, hlast, Bool.eq_false_iff.mpr hstatic, ?_⟩
      rw [Cursor.initializer?_eq, Option.mem_def.mp hlast, Option.bind_some]

/-- A class with a field of the instances in front of the static one. -/
def staticLastSource : Text :=
  "export default class A \x7b propTypes = \x7b b: 1 \x7d; static propTypes = \x7b a: 1 \x7d \x7d"

theorem declares_props_of_static_field_iff_last :
    ∃ m c n, Module.parse staticLastSource = .ok m ∧ m.class? = some (c, n) ∧
      c.propTypesFields.length = 2 ∧ c.EndsStatic ∧
      (Declaration.ofSource {} "m" staticLastSource).value =
        .ok (Declaration.text {} "m" (some ⟨n.text, c.documented.doc?,
          c.staticInitializer?.bind (Cursor.literalTable? (Options.inference {}))⟩)) := by
  have hrun : (Module.parse staticLastSource).toOption.any (fun m =>
      m.class?.any fun p =>
        p.1.propTypesFields.length == 2 && decide p.1.EndsStatic) = true := by
    decide +kernel
  rcases Module.exists_of_any hrun with ⟨m, hm, hany⟩
  rcases (Option.any_eq_true _ _).mp hany with ⟨⟨c, n⟩, hclass, hcheck⟩
  rcases Bool.and_eq_true_iff.mp hcheck with ⟨hlength, hends⟩
  have hstatic : c.EndsStatic := of_decide_eq_true hends
  exact ⟨m, c, n, hm, hclass, eq_of_beq hlength, hstatic,
    ((declares_props_of_static_field_iff hm {} "m").2 c n hclass).1 hstatic⟩

/-- A class with a field of the instances behind the static one. -/
def staticFirstSource : Text :=
  "export default class A \x7b static propTypes = \x7b a: 1 \x7d; propTypes = \x7b b: 1 \x7d \x7d"

/-- The field of the instances takes the place of the static one. -/
theorem exists_class_with_instance_props :
    ∃ m c n, Module.parse staticFirstSource = .ok m ∧ m.class? = some (c, n) ∧
      c.propTypesValue.value ≠ c.staticInitializer? ∧
      c.staticInitializer?.bind (Cursor.literalTable? (Options.inference {})) =
        some ⟨[("a", ⟨"any", none⟩)]⟩ ∧
      (Declaration.ofSource {} "m" staticFirstSource).value =
        .ok (Declaration.text {} "m" (some ⟨"A", none, some ⟨[("b", ⟨"any", none⟩)]⟩⟩)) := by
  have hrun : (Module.parse staticFirstSource).toOption.any (fun m =>
      m.selected (Options.inference {}) ==
          some ⟨"A", none, some ⟨[("b", ⟨"any", none⟩)]⟩⟩ &&
        m.class?.any fun p => !decide p.1.EndsStatic &&
          p.1.staticInitializer?.bind (Cursor.literalTable? (Options.inference {})) ==
            some ⟨[("a", ⟨"any", none⟩)]⟩) = true := by
    decide +kernel
  rcases Module.exists_of_any hrun with ⟨m, hm, hany⟩
  rcases Bool.and_eq_true_iff.mp hany with ⟨hselected, hany⟩
  rcases (Option.any_eq_true _ _).mp hany with ⟨⟨c, n⟩, hclass, hcheck⟩
  rcases Bool.and_eq_true_iff.mp hcheck with ⟨hends, htable⟩
  refine ⟨m, c, n, hm, hclass, ?_, eq_of_beq htable, ?_⟩
  · rw [(Cursor.propTypesValue_spec c).1]
    intro heq
    simp [(Cursor.initializer?_eq_staticInitializer?_iff c).mp heq] at hends
  · rw [(Declaration.ofSource_spec hm {} "m").1, eq_of_beq hselected]

end ComponentDecl
