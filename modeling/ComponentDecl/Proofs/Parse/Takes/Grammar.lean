import ComponentDecl.Proofs.Parse.Takes.Basic

set_option mvcgen.warning false

/-!
# Faithful grammars

A grammar is faithful if its parsers take the text of what they return.  Each construct
that is described in terms of a faithful grammar then takes its text as well.
-/

namespace ComponentDecl
namespace Parse

open Std.Do

/-- Grammars whose parsers take the text of what they return. -/
structure Grammar.Faithful (g : Grammar) : Prop where
  binary : ∀ setting least s, Takes s (g.binary setting least) Item.text
  operand : ∀ setting s, Takes s (g.operand setting) Item.text
  chain : ∀ s, Takes s g.chain Item.text
  pattern : ∀ s, Takes s g.pattern Item.text
  object : ∀ s, Takes s g.object Item.text
  element : ∀ o s, TakesOn s o.text (g.element o) Item.text
  statement : ∀ s, Takes s g.statement Item.text

attribute [spec high] Grammar.Faithful.binary Grammar.Faithful.operand Grammar.Faithful.chain
  Grammar.Faithful.pattern Grammar.Faithful.object Grammar.Faithful.element
  Grammar.Faithful.statement

theorem triple_failure {α : Type} {P : Text → Prop} {Q : α → Text → Prop} :
    ⦃fun t => ⌜P t⌝⦄ (failure : Parse α) ⦃⇓? a t => ⌜Q a t⌝⦄ := by
  refine triple_iff.mpr ?_
  intro t a rest _ h
  cases h

theorem Grammar.empty_faithful : Grammar.empty.Faithful where
  binary _ _ _ := triple_failure
  operand _ _ := triple_failure
  chain _ := triple_failure
  pattern _ := triple_failure
  object _ := triple_failure
  element _ _ := triple_failure
  statement _ := triple_failure

variable {g : Grammar} (hg : g.Faithful)
include hg

/-!
# Constructs built from the record alone
-/

-- the rules for open expressions are as high as the others here
@[spec 20000] theorem expression_takes (setting : Setting) (s : Text) :
    Takes s (expression g setting) Item.text :=
  hg.binary setting.free 0 s

@[spec high] theorem sequence_takes (setting : Setting) (first : Item) (s : Text) :
    TakesOn s first.text (sequence g setting first) Item.text := by
  unfold sequence
  mvcgen <;> simp_all

@[spec high] theorem expressions_takes (setting : Setting) (s : Text) :
    Takes s (expressions g setting) Item.text := by
  unfold expressions
  mvcgen <;> simp_all

@[spec high] theorem parenthesized_takes (s : Text) : Takes s (parenthesized g) Item.text := by
  unfold parenthesized
  mvcgen
  simp_all

@[spec 20000] theorem spread_takes (setting : Setting) (s : Text) :
    Takes s (spread g setting) Item.text := by
  unfold spread
  mvcgen
  simp_all

@[spec 20000] theorem expressionOrSpread_takes (setting : Setting) (s : Text) :
    Takes s (expressionOrSpread g setting) Item.text := by
  unfold expressionOrSpread
  mvcgen <;> simp_all

@[spec high] theorem arguments_takes (s : Text) : Takes s (arguments g) Item.text := by
  unfold arguments
  mvcgen <;> simp_all

@[spec high] theorem statements_takes (stop : Text → Bool) (s : Text) :
    Takes s (statements g stop) Item.textOf := by
  unfold statements
  mvcgen <;> simp_all

@[spec high] theorem blockWhere_takes (operators : Bool → Bool) (s : Text) :
    Takes s (blockWhere g operators) Item.text := by
  unfold blockWhere
  mvcgen
  simp_all

@[spec high] theorem block_takes (operators : Bool) (s : Text) :
    Takes s (block g operators) Item.text :=
  blockWhere_takes hg _ s

@[spec high] theorem initializer_takes (setting : Setting) (s : Text) :
    Takes s (initializer g setting) Item.textOf := by
  unfold initializer
  mvcgen
  simp_all

omit hg in
@[spec high] theorem seesAssign_looks (s : Text) : Looks s seesAssign := by
  unfold seesAssign
  mvcgen
  simp_all

/-!
# Patterns
-/

@[spec high] theorem propertyName_takes (s : Text) : Takes s (propertyName g) Item.text := by
  unfold propertyName
  mvcgen <;> simp_all

@[spec high] theorem patternWithDefault_takes (s : Text) :
    Takes s (patternWithDefault g) Item.text := by
  unfold patternWithDefault
  mvcgen <;> simp_all

@[spec high] theorem arrayPattern_takes (s : Text) : Takes s (arrayPattern g) Item.text := by
  unfold arrayPattern
  mvcgen <;> simp_all

omit hg in
@[spec high] theorem restPattern_takes {target : Parse Item}
    (h : ∀ s, Takes s target Item.text) (s : Text) :
    Takes s (restPattern target) Item.text := by
  unfold restPattern
  mvcgen [h]
  simp_all

@[spec high] theorem place_takes (s : Text) : Takes s (place g) Item.text := by
  unfold place
  mvcgen
  simp_all

@[spec high] theorem namedMember_takes (s : Text) : Takes s (namedMember g) Item.text := by
  unfold namedMember
  mvcgen <;> simp_all +zetaDelta

@[spec high] theorem destructuredMember_takes {inner : Parse Item}
    (h : ∀ s, Takes s inner Item.text) (s : Text) :
    Takes s (destructuredMember g inner) Item.text := by
  unfold destructuredMember
  mvcgen [h]
  simp_all

@[spec high] theorem patternMember_takes (s : Text) : Takes s (patternMember g) Item.text := by
  unfold patternMember
  mvcgen <;> simp_all

@[spec high] theorem objectPattern_takes (s : Text) : Takes s (objectPattern g) Item.text := by
  unfold objectPattern
  mvcgen <;> simp_all

omit hg in
@[spec high] theorem seesSuffix_looks (s : Text) : Looks s seesSuffix := by
  unfold seesSuffix
  mvcgen <;> simp_all

@[spec high] theorem destructuring_takes (s : Text) : Takes s (destructuring g) Item.text := by
  unfold destructuring
  mvcgen <;> simp_all

@[spec high] theorem target_takes (s : Text) : Takes s (target g) Item.text := by
  unfold target
  mvcgen <;> simp_all

@[spec high] theorem pattern_takes (s : Text) : Takes s (pattern g) Item.text := by
  unfold pattern
  mvcgen <;> simp_all

@[spec high] theorem binding_takes (s : Text) : Takes s (binding g) Item.text := by
  unfold binding
  mvcgen <;> simp_all

@[spec high] theorem parameters_takes (s : Text) : Takes s (parameters g) Item.text := by
  unfold parameters
  mvcgen <;> simp_all

/-!
# Expressions that turn out to be patterns
-/

omit hg

/-- A branch is recast by recasting its children, if at all. -/
theorem asPattern_branch {p : Place} {f : Option Field} {k : Kind} {cs : List Tree} {u : Tree}
    (h : asPattern p (.branch f k cs) = some u) :
    u = .branch f k cs ∨ ∃ k' us, u = .branch f k' us ∧
      ((∃ q, asPatternAll q cs = some us) ∨ ∃ e q, asPatternIn e q cs = some us) := by
  simp only [asPattern] at h
  split at h <;> grind [Option.map_eq_some_iff]

mutual

theorem asPattern_text {p : Place} (t u : Tree) (h : asPattern p t = some u) :
    u.text = t.text := by
  cases t with
  | gap =>
      rcases Option.some.inj h with rfl
      rfl
  | token =>
      rcases Option.some.inj h with rfl
      rfl
  | missing =>
      cases h
  | leaf =>
      simp only [asPattern] at h
      split at h <;> grind [Tree.text]
  | branch f k cs =>
      rcases asPattern_branch h with rfl | ⟨k', us, rfl, ⟨q, hus⟩ | ⟨e, q, hus⟩⟩
      · rfl
      · exact asPatternAll_text cs us hus
      · exact asPatternIn_text cs us hus

theorem asPatternAll_text {p : Place} (ts us : List Tree) (h : asPatternAll p ts = some us) :
    Tree.textAll us = Tree.textAll ts := by
  cases ts with
  | nil =>
      rcases Option.some.inj h with rfl
      rfl
  | cons t rest =>
      simp only [asPatternAll, Option.bind_eq_bind, Option.bind_eq_some_iff] at h
      rcases h with ⟨u, hu, vs, hvs, heq⟩
      rcases Option.some.inj heq with rfl
      simp only [Tree.textAll, asPattern_text t u hu, asPatternAll_text rest vs hvs]

theorem asPatternIn_text {e : Field} {p : Place} (ts us : List Tree)
    (h : asPatternIn e p ts = some us) : Tree.textAll us = Tree.textAll ts := by
  cases ts with
  | nil =>
      rcases Option.some.inj h with rfl
      rfl
  | cons t rest =>
      rcases asPatternIn_cons h with ⟨u, vs, hu | ⟨_, rfl⟩, hvs, rfl⟩
      · simp only [Tree.textAll, asPattern_text t u hu, asPatternIn_text rest vs hvs]
      · simp only [Tree.textAll, asPatternIn_text rest vs hvs]

end

theorem Item.text_asPattern? {p : Place} {i j : Item} (h : i.asPattern? p = some j) :
    j.text = i.text := by
  rcases Option.map_eq_some_iff.mp h with ⟨body, hbody, rfl⟩
  simp only [Item.text, asPatternAll_text _ _ hbody]

@[spec high] theorem recastPattern_looks (p : Place) (i : Item) (s : Text) :
    ⦃fun t => ⌜t = s⌝⦄ recastPattern p i ⦃⇓? j t => ⌜t = s ∧ j.text = i.text⌝⦄ := by
  unfold recastPattern
  mvcgen
  case vc1.h_1 hj _ ht =>
      exact ⟨ht, Item.text_asPattern? hj⟩
  all_goals simp_all

@[spec high] theorem recastPatterns_looks (p : Place) (is : List Item) (s : Text) :
    ⦃fun t => ⌜t = s⌝⦄ recastPatterns p is
    ⦃⇓? js t => ⌜t = s ∧ Item.textOf js = Item.textOf is⌝⦄ := by
  induction is generalizing s with
  | nil =>
      unfold recastPatterns
      mvcgen
  | cons i rest ih =>
      unfold recastPatterns
      mvcgen [ih, -recastPatterns_sound]
      simp_all

@[spec high] theorem seesElementEnd_looks (s : Text) : Looks s seesElementEnd := by
  unfold seesElementEnd
  mvcgen <;> simp_all

end Parse
end ComponentDecl
