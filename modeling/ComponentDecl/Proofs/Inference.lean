import ComponentDecl.Proofs.Selection
import Mathlib.Data.List.Nodup
import Mathlib.Logic.Relation

/-!
# Validators and their names

A validator expression is a chain of members behind any number of parentheses.  Here such
chains are described as rules on trees, without the search for names, and the type of an
expression is told from the dotted name of its chain alone.
-/

namespace ComponentDecl

/-!
# Chains
-/

namespace Tree

/-- Taking any number of parentheses off a tree.  A pair of parentheses stands around the
first named node inside it that is no comment. -/
inductive Uncovers : Tree → Tree → Prop
  | refl (t : Tree) : Uncovers t t
  | parens {f : Option Field} {cs : List Tree} {inner t : Tree} :
      cs.find? isSubstance = some inner → Uncovers inner t →
      Uncovers (.branch f .parenthesizedExpression cs) t

/-- Chains of members with their names, from the plain name at the root on.  There may be
parentheses around the object of every link. -/
inductive Chain : Tree → List Text → Prop
  | name (f : Option Field) (t : Text) : Chain (.leaf f .identifier t) [t]
  | member {f g : Option Field} {cs : List Tree} {object inner : Tree} {names : List Text}
      {property : Text} :
      cs.find? (fun t => t.field == some .object) = some object →
      Uncovers object inner → Chain inner names →
      cs.find? (fun t => t.field == some .property) =
        some (.leaf g .propertyIdentifier property) →
      Chain (.branch f .memberExpression cs) (names ++ [property])

/-- Whether a tree is a chain of at least one member whose names make up a text. -/
def Spells (t : Tree) (text : Text) : Prop :=
  ∃ e names, Uncovers t e ∧ e.kind? = some .memberExpression ∧ Chain e names ∧
    Text.joinWith "." names = text

/-- The name of a plain member. -/
def propertyName? : Tree → Option Text
  | leaf _ .propertyIdentifier t => some t
  | _ => none

theorem memberName?_eq_bind (cs : List Tree) :
    memberName? cs = (cs.find? fun t => t.field == some .property).bind propertyName? := by
  unfold memberName?
  cases cs.find? fun t => t.field == some .property with
  | none =>
      rfl
  | some t =>
      cases t with
      | leaf f k text =>
          cases k <;> rfl
      | _ =>
          rfl

theorem innerNames?_eq_bind (cs : List Tree) :
    innerNames? cs = (cs.find? isSubstance).bind names? := by
  induction cs with
  | nil =>
      rfl
  | cons t rest ih =>
      rw [innerNames?, List.find?_cons, ih]
      cases t.isSubstance <;> rfl

theorem objectNames?_eq_bind (cs : List Tree) :
    objectNames? cs = (cs.find? fun t => t.field == some .object).bind names? := by
  induction cs with
  | nil =>
      rfl
  | cons t rest ih =>
      rw [objectNames?, List.find?_cons, ih]
      cases t.field == some .object <;> rfl

theorem names?_parens (f : Option Field) (cs : List Tree) :
    names? (.branch f .parenthesizedExpression cs) = (cs.find? isSubstance).bind names? := by
  rw [names?, innerNames?_eq_bind]

theorem names?_member (f : Option Field) (cs : List Tree) :
    names? (.branch f .memberExpression cs) = (do
      let names ← (cs.find? fun t => t.field == some .object).bind names?
      let property ← (cs.find? fun t => t.field == some .property).bind propertyName?
      return names ++ [property]) := by
  rw [names?, objectNames?_eq_bind, memberName?_eq_bind]

theorem Uncovers.names?_eq {t e : Tree} (h : Uncovers t e) : t.names? = e.names? := by
  induction h with
  | refl t =>
      rfl
  | parens hinner _ ih =>
      rw [names?_parens, hinner, Option.bind_some, ih]

theorem Chain.names?_eq {e : Tree} {names : List Text} (h : Chain e names) :
    e.names? = some names := by
  induction h with
  | name f t =>
      rfl
  | member hobject hinner _ hproperty ih =>
      rw [names?_member, hobject, hproperty, Option.bind_some, hinner.names?_eq, ih]
      rfl

theorem eq_leaf_of_propertyName? {t : Tree} {name : Text} (h : t.propertyName? = some name) :
    ∃ f, t = .leaf f .propertyIdentifier name := by
  unfold propertyName? at h
  split at h
  · rename_i f text
    rcases Option.some.inj h with rfl
    exact ⟨f, rfl⟩
  · cases h

/-- What holds of a tree whenever it holds of its children holds of every tree. -/
theorem children_induction {motive : Tree → Prop}
    (step : ∀ t, (∀ u ∈ t.children, motive u) → motive t) (t : Tree) : motive t := by
  apply step
  intro u hu
  exact children_induction step u
termination_by sizeOf t
decreasing_by
  cases t with
  | branch f k cs =>
      have hlt := List.sizeOf_lt_of_mem hu
      simp only [children, branch.sizeOf_spec] at hlt ⊢
      omega
  | _ =>
      cases hu

/-- The names that are found are those of a chain. -/
theorem exists_chain {t : Tree} {names : List Text} (h : t.names? = some names) :
    ∃ e, Uncovers t e ∧ Chain e names := by
  induction t using children_induction generalizing names with
  | step t ih =>
      cases t with
      | gap text =>
          cases h
      | token f text =>
          cases h
      | missing f name =>
          cases h
      | leaf f k text =>
          cases k with
          | identifier =>
              rcases Option.some.inj h with rfl
              exact ⟨_, .refl _, .name f text⟩
          | _ =>
              cases h
      | branch f k cs =>
          cases k with
          | parenthesizedExpression =>
              rw [names?_parens] at h
              rcases Option.bind_eq_some_iff.mp h with ⟨inner, hinner, hnames⟩
              rcases ih inner (List.mem_of_find?_eq_some hinner) hnames with
                ⟨e, huncovers, hchain⟩
              exact ⟨e, .parens hinner huncovers, hchain⟩
          | memberExpression =>
              rw [names?_member] at h
              rcases Option.bind_eq_some_iff.mp h with ⟨front, hfront, hlast⟩
              rcases Option.bind_eq_some_iff.mp hfront with ⟨object, hobject, hnames⟩
              rcases Option.bind_eq_some_iff.mp hlast with ⟨name, hname, hall⟩
              rcases Option.bind_eq_some_iff.mp hname with ⟨property, hproperty, hplain⟩
              rcases eq_leaf_of_propertyName? hplain with ⟨g, rfl⟩
              rcases ih object (List.mem_of_find?_eq_some hobject) hnames with
                ⟨e, huncovers, hchain⟩
              rcases Option.some.inj hall with rfl
              exact ⟨_, .refl _, .member hobject huncovers hchain hproperty⟩
          | _ =>
              cases h

theorem Chain.ne_nil {e : Tree} {names : List Text} (h : Chain e names) : names ≠ [] := by
  cases h <;> simp

/-- A chain of members has at least two names, and a chain of two names has a member. -/
theorem Chain.kind?_iff {e : Tree} {names : List Text} (h : Chain e names) :
    e.kind? = some .memberExpression ↔ ∃ root property more, names = root :: property :: more := by
  cases h with
  | name f t =>
      simp [kind?]
  | @member f g cs object inner front property _ _ hfront _ =>
      cases front with
      | nil =>
          exact absurd rfl hfront.ne_nil
      | cons root more =>
          cases more with
          | nil =>
              simp [kind?]
          | cons second more =>
              simp [kind?]

theorem spells_of_names? {t : Tree} {root property : Text} {more : List Text}
    (h : t.names? = some (root :: property :: more)) :
    t.Spells (Text.joinWith "." (root :: property :: more)) := by
  rcases exists_chain h with ⟨e, huncovers, hchain⟩
  exact ⟨e, _, huncovers, hchain.kind?_iff.mpr ⟨root, property, more, rfl⟩, hchain, rfl⟩

/-- A chain is typed by its dotted name. -/
theorem Spells.propType_eq {t : Tree} {text : Text} (h : t.Spells text) (o : InferenceOptions) :
    t.propType o = (o.typeOf? text).getD .any := by
  rcases h with ⟨e, names, huncovers, hkind, hchain, rfl⟩
  rcases hchain.kind?_iff.mp hkind with ⟨root, property, more, rfl⟩
  unfold propType
  rw [huncovers.names?_eq, hchain.names?_eq]

/-- Everything else than a chain may be any value. -/
theorem propType_eq_any {t : Tree} (h : ∀ text, ¬ t.Spells text) (o : InferenceOptions) :
    t.propType o = .any := by
  unfold propType
  split
  · rename_i root property more hnames
    exact absurd (spells_of_names? hnames) (h _)
  · rfl

end Tree

/-!
# The names of validators
-/

namespace InferenceOptions

/-- A validator is named behind the library, and alone where this is allowed. -/
def Names (o : InferenceOptions) (validator text : Text) : Prop :=
  text = o.library ++ ".PropTypes.".toList ++ validator ∨
    o.standalone = true ∧ text = "PropTypes.".toList ++ validator

/-- All names of validators with their types, in the order in which they are registered. -/
def registrations (o : InferenceOptions) : List (Text × PropType) :=
  PropType.validators.flatMap fun v => (o.spellings v.1).map fun text => (text, v.2)

theorem mem_spellings {o : InferenceOptions} {validator text : Text} :
    text ∈ o.spellings validator ↔ o.Names validator text := by
  have hqualified : o.library ++ '.' :: ("PropTypes.".toList ++ validator) =
      o.library ++ ".PropTypes.".toList ++ validator := by
    rw [List.append_assoc]
    rfl
  unfold spellings Names
  dsimp only
  rw [hqualified]
  cases o.standalone <;> simp [-String.reduceToList]

theorem notMem_validator {v : Text × PropType} (h : v ∈ PropType.validators) : '.' ∉ v.1 := by
  have hall : ∀ v ∈ PropType.validators, '.' ∉ v.1 := by decide
  exact hall v h

/-- A name behind a library has two dots or more, a name alone has one. -/
theorem qualified_ne_alone (library validator : Text) {v : Text × PropType}
    (h : v ∈ PropType.validators) :
    library ++ ".PropTypes.".toList ++ validator ≠ "PropTypes.".toList ++ v.1 := by
  intro heq
  have hcount := congrArg (List.count '.') heq
  have hnone : v.1.count '.' = 0 := List.count_eq_zero.mpr (notMem_validator h)
  have htwo : ".PropTypes.".toList.count '.' = 2 := rfl
  have hone : "PropTypes.".toList.count '.' = 1 := rfl
  rw [List.count_append, List.count_append, List.count_append, hnone, htwo, hone] at hcount
  omega

/-- One text names one validator, whatever the library is called. -/
theorem Names.unique {o : InferenceOptions} {text : Text} {v w : Text × PropType}
    (hv : v ∈ PropType.validators) (hw : w ∈ PropType.validators) (hvt : o.Names v.1 text)
    (hwt : o.Names w.1 text) : v = w := by
  have hkeys : (PropType.validators.map Prod.fst).Nodup := by decide
  apply List.inj_on_of_nodup_map hkeys hv hw
  rcases hvt with rfl | ⟨_, rfl⟩
  · rcases hwt with heq | ⟨_, heq⟩
    · exact List.append_cancel_left heq
    · exact absurd heq (qualified_ne_alone o.library v.1 hw)
  · rcases hwt with heq | ⟨_, heq⟩
    · exact absurd heq.symm (qualified_ne_alone o.library w.1 hv)
    · exact List.append_cancel_left heq

/-- The type of a name is the one of the validator that it names. -/
theorem typeOf?_eq_some_iff {o : InferenceOptions} {text : Text} {type : PropType} :
    o.typeOf? text = some type ↔
      ∃ validator, (validator, type) ∈ PropType.validators ∧ o.Names validator text := by
  unfold typeOf?
  constructor
  · intro h
    rcases Option.map_eq_some_iff.mp h with ⟨v, hfind, rfl⟩
    have hnames := List.find?_some hfind
    rw [List.contains_iff_mem, mem_spellings] at hnames
    exact ⟨v.1, List.mem_of_find?_eq_some hfind, hnames⟩
  · intro h
    rcases h with ⟨validator, hmem, hnames⟩
    have hsome : (PropType.validators.find? fun v =>
        (o.spellings v.1).contains text).isSome = true := by
      rw [List.find?_isSome]
      exact ⟨(validator, type), hmem, by rwa [List.contains_iff_mem, mem_spellings]⟩
    rcases Option.isSome_iff_exists.mp hsome with ⟨w, hfind⟩
    have hother := List.find?_some hfind
    rw [List.contains_iff_mem, mem_spellings] at hother
    rw [hfind, Names.unique (List.mem_of_find?_eq_some hfind) hmem hother hnames]
    rfl

theorem mem_registrations {o : InferenceOptions} {text : Text} {type : PropType} :
    (text, type) ∈ o.registrations ↔ o.typeOf? text = some type := by
  rw [typeOf?_eq_some_iff]
  constructor
  · intro h
    rcases List.mem_flatMap.mp h with ⟨v, hv, h⟩
    rcases List.mem_map.mp h with ⟨t, ht, heq⟩
    rcases Prod.mk.inj heq with ⟨rfl, rfl⟩
    exact ⟨v.1, hv, mem_spellings.mp ht⟩
  · intro h
    rcases h with ⟨validator, hmem, hnames⟩
    exact List.mem_flatMap.mpr ⟨_, hmem, List.mem_map.mpr ⟨text, mem_spellings.mpr hnames, rfl⟩⟩

theorem nodup_spellings (o : InferenceOptions) {v : Text × PropType}
    (h : v ∈ PropType.validators) : (o.spellings v.1).Nodup := by
  have hne := qualified_ne_alone o.library v.1 h
  rw [List.append_assoc] at hne
  unfold spellings
  split
  · rw [List.nodup_cons, List.mem_singleton]
    exact ⟨hne, List.nodup_singleton _⟩
  · exact List.nodup_singleton _

/-- No two names collide. -/
theorem nodup_registrations (o : InferenceOptions) : (o.registrations.map Prod.fst).Nodup := by
  have hvalidators : PropType.validators.Nodup := by decide
  have hkeys : o.registrations.map Prod.fst =
      PropType.validators.flatMap fun v => o.spellings v.1 := by
    rw [registrations, List.map_flatMap]
    simp [Function.comp_def]
  rw [hkeys, List.nodup_flatMap]
  constructor
  · intro v hv
    exact o.nodup_spellings hv
  · apply hvalidators.imp_of_mem
    intro v w hv hw hne text htv htw
    exact hne (Names.unique hv hw (mem_spellings.mp htv) (mem_spellings.mp htw))

end InferenceOptions

/-- Where no key comes twice, a look-up finds exactly what is there. -/
theorem lookup_eq_some_iff_mem {α β : Type} [BEq α] [LawfulBEq α] {l : List (α × β)}
    (h : (l.map Prod.fst).Nodup) {a : α} {b : β} : l.lookup a = some b ↔ (a, b) ∈ l := by
  rw [List.lookup_eq_some_iff]
  constructor
  · intro hsplit
    rcases hsplit with ⟨front, back, rfl, _⟩
    simp
  · intro hmem
    rcases List.append_of_mem hmem with ⟨front, back, rfl⟩
    refine ⟨front, back, rfl, ?_⟩
    intro p hp
    rw [List.map_append, List.nodup_append] at h
    exact bne_iff_ne.mpr (h.2.2 p.1 (List.mem_map_of_mem hp) a (by simp)).symm

namespace InferenceOptions

/-- Names may be registered in any order. -/
theorem lookup_of_perm {o : InferenceOptions} {rs : List (Text × PropType)}
    (h : rs.Perm o.registrations) (text : Text) : rs.lookup text = o.typeOf? text := by
  have hnodup : (rs.map Prod.fst).Nodup :=
    ((h.map Prod.fst).nodup_iff).mpr o.nodup_registrations
  apply Option.ext
  intro type
  rw [lookup_eq_some_iff_mem hnodup, h.mem_iff, mem_registrations]

end InferenceOptions

/-!
# Parentheses and comments

Comments and parentheses are added one at a time, at any place of a tree.  What the search
for names sees of the tree at that place stays the same, and so does what it sees of the
trees above.
-/

namespace Tree

/-- The same tree in no field. -/
def outOfField : Tree → Tree
  | gap t => gap t
  | token _ t => token none t
  | leaf _ k t => leaf none k t
  | branch _ k cs => branch none k cs
  | missing _ n => missing none n

/-- Adding a comment or white space inside a node, or parentheses around a chain, which may
hold comments as well. -/
inductive Adorns : Tree → Tree → Prop
  | comment {f : Option Field} {k : Kind} (us vs : List Tree) (text : Text) :
      Adorns (.branch f k (us ++ vs)) (.branch f k (us ++ .leaf none .comment text :: vs))
  | blank {f : Option Field} {k : Kind} (us vs : List Tree) (text : Text) :
      Adorns (.branch f k (us ++ vs)) (.branch f k (us ++ .gap text :: vs))
  | parens {t e : Tree} {names : List Text} {us vs : List Tree} :
      Uncovers t e → Chain e names → (∀ u ∈ us, u.isSubstance = false) →
      (∀ v ∈ vs, v.isSubstance = false) →
      Adorns t (.branch t.field .parenthesizedExpression (us ++ t.outOfField :: vs))
  | inside {f : Option Field} {k : Kind} {t u : Tree} (us vs : List Tree) :
      Adorns t u → Adorns (.branch f k (us ++ t :: vs)) (.branch f k (us ++ u :: vs))

/-- What the search for names sees of two trees is the same. -/
structure Agrees (t u : Tree) : Prop where
  field : u.field = t.field
  substance : u.isSubstance = t.isSubstance
  property : u.propertyName? = t.propertyName?
  names : u.names? = t.names?

theorem agrees_branch {f : Option Field} {k : Kind} {cs ds : List Tree}
    (hinner : (ds.find? isSubstance).bind names? = (cs.find? isSubstance).bind names?)
    (hobject : (ds.find? fun t => t.field == some .object).bind names? =
      (cs.find? fun t => t.field == some .object).bind names?)
    (hproperty : (ds.find? fun t => t.field == some .property).bind propertyName? =
      (cs.find? fun t => t.field == some .property).bind propertyName?) :
    Agrees (.branch f k cs) (.branch f k ds) := by
  refine ⟨rfl, rfl, rfl, ?_⟩
  cases k with
  | parenthesizedExpression =>
      rw [names?_parens, names?_parens, hinner]
  | memberExpression =>
      rw [names?_member, names?_member, hobject, hproperty]
  | _ =>
      rfl

theorem find?_insert {p : Tree → Bool} {u : Tree} (h : p u = false) (us vs : List Tree) :
    (us ++ u :: vs).find? p = (us ++ vs).find? p := by
  rw [List.find?_append, List.find?_append, List.find?_cons, h]

theorem agrees_insert {f : Option Field} {k : Kind} {u : Tree} (hfield : u.field = none)
    (hsubstance : u.isSubstance = false) (us vs : List Tree) :
    Agrees (.branch f k (us ++ vs)) (.branch f k (us ++ u :: vs)) := by
  apply agrees_branch
  · rw [find?_insert hsubstance]
  · rw [find?_insert (by rw [hfield]; rfl)]
  · rw [find?_insert (by rw [hfield]; rfl)]

theorem bind_find?_replace {p : Tree → Bool} {α : Type} {g : Tree → Option α} {t u : Tree}
    (hp : p u = p t) (hg : g u = g t) (us vs : List Tree) :
    ((us ++ u :: vs).find? p).bind g = ((us ++ t :: vs).find? p).bind g := by
  rw [List.find?_append, List.find?_append, List.find?_cons, List.find?_cons, hp]
  cases us.find? p with
  | some w =>
      rfl
  | none =>
      cases p t with
      | true =>
          exact hg
      | false =>
          rfl

theorem Agrees.inside {t u : Tree} (h : Agrees t u) (f : Option Field) (k : Kind)
    (us vs : List Tree) : Agrees (.branch f k (us ++ t :: vs)) (.branch f k (us ++ u :: vs)) := by
  apply agrees_branch
  · exact bind_find?_replace h.substance h.names us vs
  · exact bind_find?_replace (by rw [h.field]) h.names us vs
  · exact bind_find?_replace (by rw [h.field]) h.property us vs

theorem names?_outOfField (t : Tree) : t.outOfField.names? = t.names? := by
  cases t with
  | leaf f k text =>
      cases k <;> rfl
  | branch f k cs =>
      cases k <;> rfl
  | _ =>
      rfl

theorem isSubstance_outOfField (t : Tree) : t.outOfField.isSubstance = t.isSubstance := by
  cases t <;> rfl

/-- A tree with names is neither a comment nor the name of a member. -/
theorem substance_of_names? {t : Tree} {names : List Text} (h : t.names? = some names) :
    t.isSubstance = true ∧ t.propertyName? = none := by
  cases t with
  | leaf f k text =>
      cases k <;> first | exact ⟨rfl, rfl⟩ | cases h
  | branch f k cs =>
      cases k <;> first | exact ⟨rfl, rfl⟩ | cases h
  | _ =>
      cases h

theorem agrees_parens {t : Tree} {names : List Text} (h : t.names? = some names)
    {us : List Tree} (hus : ∀ u ∈ us, u.isSubstance = false) (vs : List Tree) :
    Agrees t (.branch t.field .parenthesizedExpression (us ++ t.outOfField :: vs)) := by
  rcases substance_of_names? h with ⟨hsubstance, hproperty⟩
  have hnone : us.find? isSubstance = none := by
    rw [List.find?_eq_none]
    intro u hu
    simp [hus u hu]
  constructor
  · rfl
  · rw [hsubstance]
    rfl
  · rw [hproperty]
    rfl
  · rw [names?_parens, List.find?_append, hnone, Option.none_or,
      List.find?_cons_of_pos (by rw [isSubstance_outOfField, hsubstance]), Option.bind_some,
      names?_outOfField]

theorem Adorns.agrees {t u : Tree} (h : Adorns t u) : Agrees t u := by
  induction h with
  | comment us vs text =>
      exact agrees_insert rfl rfl us vs
  | blank us vs text =>
      exact agrees_insert rfl rfl us vs
  | parens huncovers hchain hus _ =>
      exact agrees_parens (huncovers.names?_eq.trans hchain.names?_eq) hus _
  | inside us vs _ ih =>
      exact ih.inside _ _ us vs

theorem names?_of_adorned {t u : Tree} (h : Relation.ReflTransGen Adorns t u) :
    u.names? = t.names? := by
  induction h with
  | refl =>
      rfl
  | tail _ hstep ih =>
      rw [hstep.agrees.names, ih]

end Tree

/-!
# Inference
-/

theorem Tree.Spells.propType_of_names {t : Tree} {text : Text} (h : t.Spells text)
    {o : InferenceOptions} {validator : Text} {type : PropType}
    (hvalidator : (validator, type) ∈ PropType.validators) (hnames : o.Names validator text) :
    t.propType o = type := by
  rw [h.propType_eq, InferenceOptions.typeOf?_eq_some_iff.mpr ⟨validator, hvalidator, hnames⟩]
  rfl

theorem Tree.propType_of_unnamed {t : Tree} {o : InferenceOptions}
    (h : ∀ validator type text, (validator, type) ∈ PropType.validators → t.Spells text →
      ¬ o.Names validator text) : t.propType o = .any := by
  by_cases hspells : ∃ text, t.Spells text
  · rcases hspells with ⟨text, hspells⟩
    rw [hspells.propType_eq]
    cases htype : o.typeOf? text with
    | none =>
        rfl
    | some type =>
        rcases InferenceOptions.typeOf?_eq_some_iff.mp htype with ⟨validator, hmem, hnames⟩
        exact absurd hnames (h validator type text hmem hspells)
  · exact propType_eq_any (fun text htext => hspells ⟨text, htext⟩) o

/-- Allowing short names changes the type of a chain only if it is a short name. -/
theorem Tree.spells_of_propType_ne {t : Tree} {o : InferenceOptions}
    (h : t.propType { o with standalone := false } ≠ t.propType { o with standalone := true }) :
    ∃ validator type, (validator, type) ∈ PropType.validators ∧
      t.Spells ("PropTypes.".toList ++ validator) := by
  by_contra hnone
  push Not at hnone
  by_cases hnamed : ∃ validator type text, (validator, type) ∈ PropType.validators ∧
      t.Spells text ∧ text = o.library ++ ".PropTypes.".toList ++ validator
  · rcases hnamed with ⟨validator, type, text, hvalidator, hspells, htext⟩
    have htype : ∀ standalone, t.propType { o with standalone := standalone } = type :=
      fun _ => hspells.propType_of_names hvalidator (Or.inl htext)
    rw [htype, htype] at h
    exact h rfl
  · push Not at hnamed
    have hany : ∀ standalone, t.propType { o with standalone := standalone } = .any := by
      intro standalone
      apply propType_of_unnamed
      intro validator type text hvalidator hspells hnames
      rcases hnames with hqualified | ⟨_, rfl⟩
      · exact hnamed validator type text hvalidator hspells hqualified
      · exact hnone validator type hvalidator hspells
    rw [hany, hany] at h
    exact h rfl

/-- The type of an expression is that of the validator which its chain of members names, and
any value for all other expressions.  No two names of validators collide, parentheses and
comments do not matter, and short names matter only where they are written. -/
theorem infers_type_of_named_validator (o : InferenceOptions) (t : Tree) :
    (∀ validator type text, (validator, type) ∈ PropType.validators → t.Spells text →
      o.Names validator text → t.propType o = type) ∧
    ((∀ validator type text, (validator, type) ∈ PropType.validators → t.Spells text →
      ¬ o.Names validator text) → t.propType o = .any) ∧
    (o.registrations.map Prod.fst).Nodup ∧
    (∀ rs : List (Text × PropType), rs.Perm o.registrations →
      ∀ text, rs.lookup text = o.typeOf? text) ∧
    (∀ u, Relation.ReflTransGen Tree.Adorns t u → u.propType o = t.propType o) ∧
    (t.propType { o with standalone := false } ≠ t.propType { o with standalone := true } →
      ∃ validator type, (validator, type) ∈ PropType.validators ∧
        t.Spells ("PropTypes.".toList ++ validator)) := by
  refine ⟨?_, Tree.propType_of_unnamed, o.nodup_registrations, ?_, ?_,
    Tree.spells_of_propType_ne⟩
  · intro validator type text hvalidator hspells hnames
    exact hspells.propType_of_names hvalidator hnames
  · intro rs hperm text
    exact InferenceOptions.lookup_of_perm hperm text
  · intro u hadorned
    unfold Tree.propType
    rw [Tree.names?_of_adorned hadorned]

/-- A validator behind a library with a dot in its name, with parentheses and comments. -/
def dressedSource : Text :=
  "x = (/* a */ ((Lib.Kit)./* b */PropTypes).bool)"

theorem infers_type_of_named_validator_dressed :
    ∃ m c, Module.parse dressedSource = .ok m ∧ c ∈ m.root.nodes ∧
      c.isA .parenthesizedExpression = true ∧
      c.tree.Spells "Lib.Kit.PropTypes.bool" ∧
      InferenceOptions.Names ⟨"Lib.Kit", false⟩ "bool" "Lib.Kit.PropTypes.bool" ∧
      c.tree.propType ⟨"Lib.Kit", false⟩ = .boolean := by
  have hrun : (Module.parse dressedSource).toOption.any (fun m =>
      (m.root.nodes.find? (Cursor.isA .parenthesizedExpression)).any fun c =>
        c.tree.names? == some (["Lib", "Kit", "PropTypes", "bool"] : List Text)) = true := by
    decide +kernel
  rcases Module.exists_of_any hrun with ⟨m, hm, hany⟩
  rcases (Option.any_eq_true _ _).mp hany with ⟨c, hfind, hchain⟩
  have hspells : c.tree.Spells "Lib.Kit.PropTypes.bool" :=
    Tree.spells_of_names? (eq_of_beq hchain)
  have hnames : InferenceOptions.Names ⟨"Lib.Kit", false⟩ "bool" "Lib.Kit.PropTypes.bool" :=
    Or.inl rfl
  have hvalidator : (("bool".toList, .boolean) : Text × PropType) ∈ PropType.validators := by
    decide
  exact ⟨m, c, hm, List.mem_of_find?_eq_some hfind, List.find?_some hfind, hspells, hnames,
    (infers_type_of_named_validator ⟨"Lib.Kit", false⟩ c.tree).1 _ _ _ hvalidator hspells hnames⟩

end ComponentDecl
