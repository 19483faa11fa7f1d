import ComponentDecl.Parse.Class
import ComponentDecl.Proofs.Parse.Grammar

set_option mvcgen.warning false

/-!
# Sound functions and classes

The pieces of a class tell which of them is its name: decorators, the base and the body
fill other fields, or none.
-/

namespace ComponentDecl
namespace Parse

open Std.Do

/-!
# Recasting as patterns
-/

@[spec] theorem recastPattern_sound (p : Place) {i : Item} (hi : i.Open) :
    Yields (recastPattern p i) fun j => j.Sound ∧ (i.IsNode → j.IsNode) := by
  unfold recastPattern
  mvcgen
  case vc1 =>
      rename_i hj _
      exact ⟨hi.asPattern? hj, fun hnode => hnode.asPattern? hj⟩
  simp_all

@[spec] theorem recastPatterns_sound (p : Place) {is : List Item} (his : Item.OpenAll is) :
    Yields (recastPatterns p is) Item.SoundAll := by
  induction is with
  | nil =>
      unfold recastPatterns
      mvcgen
      simp
  | cons i is ih =>
      unfold recastPatterns
      mvcgen [ih] <;> simp_all

/-!
# Functions
-/

/-- Functions whose pieces are sound. -/
def FunctionParts.Sound (f : FunctionParts) : Prop :=
  Item.SoundAll f.items

@[simp] theorem FunctionParts.sound_toExpression {f : FunctionParts} (h : f.Sound) :
    f.toExpression.Sound := by
  unfold FunctionParts.toExpression
  split
  · exact Item.sound_node (by simp) h
  · exact Item.sound_node (by simp) h

@[simp] theorem FunctionParts.isNode_toExpression {f : FunctionParts} :
    f.toExpression.IsNode :=
  Item.isNode_node

@[simp] theorem FunctionParts.sound_toDeclaration {f : FunctionParts} {tail : List Item}
    (h : f.Sound) (htail : Item.SoundAll tail) : (f.toDeclaration tail).Sound := by
  have hall : Item.SoundAll (f.items ++ tail) := Item.soundAll_append.mpr ⟨h, htail⟩
  unfold FunctionParts.toDeclaration
  split
  · exact Item.sound_node (by simp) hall
  · exact Item.sound_node (by simp) hall

@[simp] theorem FunctionParts.sound_toExpression_async {f : FunctionParts} {i : Item}
    {t : Text} (hi : i.Sound) (h : f.Sound) :
    (FunctionParts.toExpression
      { f with items := ⟨i.lead, [.token none t]⟩ :: f.items }).Sound :=
  FunctionParts.sound_toExpression (Item.soundAll_cons.mpr ⟨Item.sound_token hi, h⟩)

@[spec] theorem optionalKeyword_sound (w : String) :
    Yields (optionalKeyword w) Item.SoundAll := by
  unfold optionalKeyword
  mvcgen <;> simp_all

@[spec] theorem modifiers_sound (inClass : Bool) :
    Yields (modifiers inClass) Item.SoundAll := by
  unfold modifiers
  mvcgen
  case vc1.h =>
      intro t tree rest hscan
      exact scan_sound hscan fun _ => .token _ _
  all_goals simp_all

/-!
# The name of a class
-/

/-- Items in which only an identifier fills the field of names. -/
def Item.NamesWell (i : Item) : Prop :=
  ∀ t ∈ i.body, t.field = some .name → t.kind? = some .identifier

/-- Items in which something fills the field of names. -/
def Item.HasName (i : Item) : Prop :=
  ∃ t ∈ i.body, t.field = some .name

@[simp] theorem Item.namesWell_inField {f : Field} {i : Item} (hf : f ≠ .name) :
    (i.inField f).NamesWell := by
  intro t ht hname
  rcases List.mem_map.mp ht with ⟨u, _, rfl⟩
  rcases Tree.field_inField (f := f) (t := u) with hfield | hfield
  · rw [hfield] at hname
    exact absurd (Option.some.inj hname) hf
  · rw [hfield] at hname
    cases hname

@[simp] theorem Item.namesWell_node {k : Kind} {is : List Item} : (Item.node k is).NamesWell := by
  cases is <;> simp [NamesWell, node, Tree.field]

@[simp] theorem Item.IsMark.namesWell {i : Item} (h : i.IsMark) : i.NamesWell := by
  intro t ht hname
  rcases h.2 t ht with ⟨u, rfl⟩
  cases hname

@[simp] theorem Item.IsToken.namesWell {i : Item} (h : i.IsToken) : i.NamesWell :=
  h.isMark.namesWell

@[simp] theorem Item.IsWord.namesWell_inField {f : Field} {i : Item}
    (h : i.IsWord .identifier) : (i.inField f).NamesWell := by
  rcases h with ⟨_, w, hbody, _⟩
  simp [NamesWell, Item.inField, hbody, Tree.inField, Tree.kind?]

@[simp] theorem Item.IsWord.hasName_inField {i : Item} (h : i.IsWord .identifier) :
    (i.inField .name).HasName := by
  rcases h with ⟨_, w, hbody, _⟩
  exact ⟨.leaf (some .name) .identifier w, by simp [Item.inField, hbody, Tree.inField], rfl⟩

/-- Items that are no class. -/
def Item.NoClass (i : Item) : Prop :=
  ∀ t ∈ i.body, t.isClass = false

@[simp] theorem Item.noClass_inField {f : Field} {i : Item} (h : i.NoClass) :
    (i.inField f).NoClass := by
  intro t ht
  rcases List.mem_map.mp ht with ⟨u, hu, rfl⟩
  simpa [Tree.isClass] using h u hu

@[simp] theorem Item.noClass_node {k : Kind} {is : List Item}
    (hk : k ∉ [Kind.classDeclaration, .classExpression]) : (Item.node k is).NoClass := by
  cases is <;> simp_all [NoClass, node, Tree.isClass, Tree.kind?]

/-- Classes whose pieces are sound and tell their name. -/
@[mk_iff]
structure ClassParts.Sound (c : ClassParts) : Prop where
  items : Item.SoundAll c.items
  names : ∀ i ∈ c.items, i.NamesWell
  named : c.named = true → ∃ i ∈ c.items, i.HasName

theorem namesWell_inside {is : List Item} (his : Item.SoundAll is)
    (hnames : ∀ i ∈ is, i.NamesWell) {t : Tree} (ht : t ∈ Item.inside is)
    (hname : t.field = some .name) : t.kind? = some .identifier := by
  rcases Item.mem_inside his.lead ht with htrivia | ⟨i, hi, hbody⟩
  · rw [htrivia.field_eq_none] at hname
    cases hname
  · exact hnames i hi t hbody hname

@[simp] theorem ClassParts.sound_toExpression {c : ClassParts} (h : c.Sound) :
    c.toExpression.Sound := by
  apply Item.sound_node_of h.items
  intro t ht hname
  exact namesWell_inside h.items h.names ht hname

@[simp] theorem ClassParts.isNode_toExpression {c : ClassParts} : c.toExpression.IsNode :=
  Item.isNode_node

@[simp] theorem ClassParts.sound_toDeclaration {c : ClassParts} {tail : List Item}
    (h : c.Sound) (hnamed : c.named = true) (hsound : Item.SoundAll tail)
    (htail : ∀ i ∈ tail, i.IsMark) : (c.toDeclaration tail).Sound := by
  have hall : Item.SoundAll (c.items ++ tail) := Item.soundAll_append.mpr ⟨h.items, hsound⟩
  apply Item.sound_node_of hall
  constructor
  · rcases h.named hnamed with ⟨i, hi, t, ht, hname⟩
    exact ⟨t, Item.mem_inside_of_mem_body (List.mem_append_left tail hi) ht, hname⟩
  · intro t ht hname
    apply namesWell_inside hall _ ht hname
    intro i hi
    rcases List.mem_append.mp hi with hi | hi
    · exact h.names i hi
    · exact (htail i hi).namesWell

variable {g : Grammar} (hg : g.Sound)
include hg

@[spec] theorem functionParts_sound (operators : Bool) :
    Yields (functionParts g operators) FunctionParts.Sound := by
  unfold functionParts
  mvcgen <;> simp_all [FunctionParts.Sound]

@[spec] theorem methodTail_sound {front : List Item} {name : Item}
    (hfront : Item.SoundAll front) (hname : name.Sound) :
    Yields (methodTail g front name) fun i => i.Sound ∧ i.IsEntry := by
  unfold methodTail
  mvcgen
  simp_all

/-!
# Decorators
-/

omit hg in
@[spec] theorem decoratorMember_sound {i : Item} (hi : i.Sound) :
    Yields (decoratorMember i) fun j => ∀ i ∈ j, i.SoundNode := by
  unfold decoratorMember
  mvcgen <;> simp_all

@[spec] theorem decorator_sound :
    Yields (decorator g) fun i => i.Sound ∧ i.NamesWell ∧ i.NoClass := by
  unfold decorator
  mvcgen <;> simp_all +zetaDelta

@[spec] theorem decorators_sound :
    Yields (decorators g) fun is =>
      Item.SoundAll is ∧ (∀ i ∈ is, i.NamesWell) ∧ ∀ i ∈ is, i.NoClass := by
  have h : Yields (decorators g) fun is => ∀ i ∈ is, i.Sound ∧ i.NamesWell ∧ i.NoClass := by
    apply yields_whileSees
    mvcgen
    simp_all
  rw [yields_iff] at h ⊢
  intro t is rest hp
  have his := h t is rest hp
  exact ⟨fun i hi => (his i hi).1, fun i hi => (his i hi).2.1, fun i hi => (his i hi).2.2⟩

/-!
# Templates between tags
-/

omit hg in
theorem templateContent_sound {fuel : Nat} {t : Text} {trees : List Tree} {rest : Text}
    (h : templateContent fuel t = some (trees, rest)) : ∀ tree ∈ trees, tree.Sound := by
  induction fuel generalizing t trees with
  | zero =>
      cases h
  | succ fuel ih =>
      unfold templateContent at h
      dsimp only at h
      split at h
      · rcases Option.map_eq_some_iff.mp h with ⟨⟨more, r⟩, hm, heq⟩
        rcases Prod.mk.inj heq with ⟨rfl, rfl⟩
        intro tree htree
        rcases List.mem_append.mp htree with hgap | htree
        · exact (Lexeme.gap_isTrivia _ tree hgap).sound
        · rcases List.mem_cons.mp htree with rfl | htree
          · exact .leaf trivial
          · exact ih hm tree htree
      · split at h
        · rename_i c after hc
          rcases Option.map_eq_some_iff.mp h with ⟨⟨more, r⟩, hm, heq⟩
          rcases Prod.mk.inj heq with ⟨rfl, rfl⟩
          intro tree htree
          rcases List.mem_cons.mp htree with rfl | htree
          · refine .leaf (Lexeme.isComment_append ?_ (Lexeme.comment?_isComment hc))
            intro d hd
            have hspace := (Text.span_spec _ t).2.1 d hd
            rw [Bool.and_eq_true] at hspace
            simp [Lexeme.isGap, hspace.1]
          · exact ih hm tree htree
        · rcases Prod.mk.inj (Option.some.inj h) with ⟨rfl, rfl⟩
          intro tree htree
          rcases List.mem_singleton.mp htree with rfl
          exact .leaf trivial
        · split at h
          · cases h
          · rcases Option.map_eq_some_iff.mp h with ⟨⟨more, r⟩, hm, heq⟩
            rcases Prod.mk.inj heq with ⟨rfl, rfl⟩
            intro tree htree
            rcases List.mem_cons.mp htree with rfl | htree
            · exact .gap _
            · exact ih hm tree htree

omit hg in
@[spec] theorem taggedTemplate_sound : Yields taggedTemplate Item.SoundNode := by
  apply lexeme_soundNode
  intro t tree rest hscan
  rcases Option.bind_eq_some_iff.mp hscan with ⟨after, _, hscan⟩
  rcases Option.bind_eq_some_iff.mp hscan with ⟨⟨more, r⟩, hm, heq⟩
  rcases Prod.mk.inj (Option.some.inj heq) with ⟨rfl, rfl⟩
  refine ⟨.branch trivial ?_, rfl⟩
  intro c hc
  rcases List.mem_cons.mp hc with rfl | hc
  · exact .leaf trivial
  · exact templateContent_sound hm c hc

/-!
# Members
-/

@[spec] theorem staticBlock_sound : Yields (staticBlock g) Item.Sound := by
  unfold staticBlock
  mvcgen
  simp_all

@[spec] theorem fieldOrMethod_sound : Yields (fieldOrMethod g) Item.SoundAll := by
  unfold fieldOrMethod
  mvcgen <;> simp_all +zetaDelta

@[spec] theorem member_sound : Yields (member g) Item.SoundAll := by
  unfold member
  mvcgen <;> simp_all

@[spec] theorem classBody_sound : Yields (classBody g) Item.Sound := by
  unfold classBody
  mvcgen <;> simp_all

@[spec] theorem classParts_sound {front : List Item} (hfront : Item.SoundAll front)
    (hnames : ∀ i ∈ front, i.NamesWell) : Yields (classParts g front) ClassParts.Sound := by
  unfold classParts
  mvcgen <;> simp_all [ClassParts.sound_iff, or_imp, or_and_right, exists_or]

end Parse
end ComponentDecl
