import ComponentDecl.Proofs.Parse.Takes.Class

set_option mvcgen.warning false

/-!
# Faithful expressions

Elements of markup, literals, functions and the operators that join expressions.
-/

namespace ComponentDecl
namespace Parse

open Std.Do

/-!
# Elements of markup
-/

@[spec high] theorem markupName_takes (k : Kind) (s : Text) :
    Takes s (markupName k) Item.text := by
  apply lexeme_takes
  intro t tree rest h
  refine scan_takes h (fun _ => rfl) ?_
  intro w r hw
  cases hh : Lexeme.hyphenated? t with
  | none =>
      rw [hh] at hw
      exact Lexeme.word?_takes hw
  | some m =>
      rw [hh] at hw
      obtain rfl : m = (w, r) := Option.some.inj hw
      exact Lexeme.hyphenated?_takes hh

@[spec high] theorem nameMember_takes (i : Item) (s : Text) :
    TakesOn s i.text (nameMember i) fun j => (j.getD i).text := by
  unfold nameMember
  mvcgen <;> simp_all

@[spec high] theorem elementName_takes (s : Text) : Takes s elementName Item.text := by
  unfold elementName
  mvcgen <;> simp_all

@[spec high] theorem closingTail_takes (o : Item) (s : Text) :
    TakesOn s o.text (closingTail o) Item.text := by
  unfold closingTail
  mvcgen <;> simp_all

variable {g : Grammar} (hg : g.Faithful)
include hg

@[spec high] theorem bracedTail_takes (o : Item) (s : Text) :
    TakesOn s o.text (bracedTail g o) Item.text := by
  unfold bracedTail
  mvcgen <;> simp_all

@[spec high] theorem braced_takes (s : Text) : Takes s (braced g) Item.text := by
  unfold braced
  mvcgen <;> simp_all

@[spec high] theorem attributeValue_takes (s : Text) : Takes s (attributeValue g) Item.text := by
  unfold attributeValue
  mvcgen
  case vc6 =>
      intros
      exact Lexeme.attributeString?_takes (by assumption)
  all_goals simp_all

@[spec high] theorem elementAttribute_takes (s : Text) :
    Takes s (elementAttribute g) Item.text := by
  unfold elementAttribute
  mvcgen <;> simp_all

@[spec high] theorem elementTail_takes (fuel : Nat) (s : Text) :
    Takes s (elementTail g fuel) Item.textOf := by
  induction fuel generalizing s with
  | zero =>
      exact triple_failure
  | succ fuel ih =>
      unfold elementTail
      mvcgen [ih, -elementTail_sound]
      case vc1 =>
          rename_i hstate' _ _ _ hcomment _ hstate _ _ hmore
          rw [hstate.2, hstate'] at hcomment
          rw [childComment?_takes hcomment, hmore]
          simp [Item.text]
      case vc10 =>
          intro hfalse
          cases hfalse
      all_goals
        have htext := Lexeme.markupLexeme?_takes (by assumption)
        simp_all +zetaDelta [Tree.text, Tree.textAll]

@[spec high] theorem element_takes (o : Item) (s : Text) :
    TakesOn s o.text (element g o) Item.text := by
  unfold element
  mvcgen <;> simp_all +zetaDelta

/-!
# Literals
-/

omit hg in
/-- A brace at the head of the input has no trivia in front of it. -/
@[spec 20000] theorem mark_brace_takes (s : Text) :
    ⦃fun t => ⌜t = s ∧ s.head? = some '{'⌝⦄ mark "\x7b" false
    ⦃⇓? b t => ⌜s = Tree.textAll b.body ++ t⌝⦄ := by
  refine triple_iff.mpr ?_
  rintro t b rest ⟨rfl, hhead⟩ h
  rcases List.head?_eq_some_iff.mp hhead with ⟨tail, rfl⟩
  cases h
  rfl

@[spec high] theorem templateTail_takes (fuel : Nat) (s : Text) :
    Takes s (templateTail g fuel) Item.textOf := by
  induction fuel generalizing s with
  | zero =>
      exact triple_failure
  | succ fuel ih =>
      unfold templateTail
      mvcgen [ih, -templateTail_sound]
      case vc2 =>
          have hchars := Lexeme.templateChars?_takes (by assumption)
          exact ⟨trivial, hchars.2 _ rfl⟩
      case vc5 =>
          have hchars := Lexeme.templateChars?_takes (by assumption)
          have hescape := Lexeme.escape?_spec (by assumption)
          simp_all [Tree.text, Tree.textAll]
      case vc6 =>
          intro hfalse
          cases hfalse
      case vc8 =>
          intro hfalse
          cases hfalse
      all_goals
        have hchars := Lexeme.templateChars?_takes (by assumption)
        simp_all [Tree.text, Tree.textAll]

@[spec high] theorem templateString_takes (html : Bool) (s : Text) :
    Takes s (templateString g html) Item.text := by
  unfold templateString
  mvcgen
  simp_all

omit hg in
@[spec 20000] theorem regex_takes (s : Text) :
    ⦃fun t => ⌜t = s⌝⦄ lexeme true Lexeme.regex?
    ⦃⇓? i t => ⌜s = i.text ++ t ∧ ∃ cs, i.body = [.branch none .regex cs]⌝⦄ := by
  apply takes_and_yields (lexeme_takes (fun _ _ _ => Lexeme.regex?_takes) s)
  apply yields_lexeme
  intro lead t tree rest _ h
  unfold Lexeme.regex? at h
  grind

omit hg in
@[spec high] theorem regexLiteral_takes (setting : Setting) (s : Text) :
    Takes s (regexLiteral setting) Item.text := by
  unfold regexLiteral
  mvcgen
  case vc2 =>
      rename_i hs i _ hi _ _ _ hlook _ tail rest hlate _ hstate
      rcases hi with ⟨hi, cs, hbody⟩
      rw [hstate.2] at hlate
      rw [← hs, hi, ← hlook, Lexeme.lateFlags?_takes hlate]
      simp [Item.text, hbody, Tree.text, Tree.textAll, Tree.textAll_append, Tree.children]
  all_goals simp_all

@[spec high] theorem array_takes (s : Text) : Takes s (array g) Item.text := by
  unfold array
  mvcgen <;> simp_all

@[spec high] theorem namedObjectMember_takes (s : Text) :
    Takes s (namedObjectMember g) Item.text := by
  unfold namedObjectMember
  mvcgen <;> simp_all +zetaDelta

@[spec high] theorem objectMember_takes (s : Text) : Takes s (objectMember g) Item.text := by
  unfold objectMember
  mvcgen -trivial
  all_goals first | (intros; assumption) | simp_all [-String.reduceToList]

@[spec high] theorem objectLiteral_takes (s : Text) : Takes s (objectLiteral g) Item.text := by
  unfold objectLiteral
  mvcgen <;> simp_all

omit hg in
@[spec high] theorem literalOrPattern_takes (setting : Setting) {literal : Parse Item}
    (h : ∀ s, Takes s literal Item.text) (s : Text) :
    Takes s (literalOrPattern setting literal) Item.text := by
  unfold literalOrPattern
  mvcgen [h] <;> simp_all

/-!
# Arrow functions
-/

@[spec high] theorem arrowBody_takes (setting : Setting) (s : Text) :
    Takes s (arrowBody g setting) Item.text := by
  unfold arrowBody
  mvcgen -trivial
  all_goals first | (intros; assumption) | simp_all [-String.reduceToList]

@[spec high] theorem arrowTail_takes (setting : Setting) (front : List Item) (s : Text) :
    TakesOn s (Item.textOf front) (arrowTail g setting front) Item.text := by
  unfold arrowTail
  mvcgen
  simp_all

@[spec high] theorem coverList_takes (s : Text) : Takes s (coverList g) Item.textOf := by
  unfold coverList
  mvcgen <;> simp_all

@[spec high] theorem arrowFrom_takes (setting : Setting) (front : List Item) (o : Item)
    (es : List Item) (c : Item) (s : Text) :
    TakesOn s (Item.textOf front ++ o.text ++ Item.textOf es ++ c.text)
      (arrowFrom g setting front o es c) Item.text := by
  unfold arrowFrom
  mvcgen <;> simp_all +zetaDelta

@[spec high] theorem arrowOrParenthesized_takes (setting : Setting) (s : Text) :
    Takes s (arrowOrParenthesized g setting) Item.text := by
  unfold arrowOrParenthesized
  mvcgen <;> simp_all

@[spec high] theorem arrowWithParameters_takes (setting : Setting) (front : List Item)
    (s : Text) :
    TakesOn s (Item.textOf front) (arrowWithParameters g setting front) Item.text := by
  unfold arrowWithParameters
  mvcgen <;> simp_all

@[spec high] theorem nameOrArrow_takes (setting : Setting) (front : List Item) (name : Item)
    (s : Text) :
    TakesOn s (Item.textOf front ++ name.text) (nameOrArrow g setting front name) Item.text := by
  unfold nameOrArrow
  mvcgen <;> simp_all

omit hg in
/-- What is tried behind a name goes on from the name. -/
@[spec 20000] theorem orName_takes {p : Parse Item} {name : Item}
    (h : ∀ s, TakesOn s name.text p Item.text) (s : Text) :
    TakesOn s name.text (p <|> pure name) Item.text := by
  apply triple_orElse (h s)
  mvcgen

omit hg in
/-- The word that is read is the word ahead. -/
theorem word_takes_ahead {k : Kind} {html : Bool} {s w : Text}
    (h : ∃ rest, Lexeme.word? (Lexeme.trivia html s).2 = some (w, rest)) :
    ⦃fun t => ⌜t = s⌝⦄ word k html
    ⦃⇓? i t => ⌜s = i.text ++ t ∧ i.text = Tree.textAll i.lead ++ w⌝⦄ := by
  refine triple_iff.mpr ?_
  rintro t i rest rfl hp
  rcases triple_iff.mp (word_spec k html t) t i rest rfl hp with ⟨htext, _, hi⟩
  rcases h with ⟨_, hw⟩
  rw [hw] at hi
  exact ⟨htext, by rw [(Prod.mk.inj (Option.some.inj hi)).1, Item.text]⟩

@[spec high] theorem asyncOperand_takes (setting : Setting) {s : Text}
    (h : ∃ rest, Lexeme.word? (Lexeme.trivia true s).2 = some ("async".toList, rest)) :
    Takes s (asyncOperand g setting) Item.text := by
  have hname := word_takes_ahead (k := .identifier) h
  have hword := word_takes .identifier false
  unfold asyncOperand
  mvcgen -trivial [hname, hword, -word_sound, -word_takes]
  all_goals first
    | (intros; assumption)
    | simp_all +zetaDelta [Tree.textAll, Tree.text, -String.reduceToList]

/-!
# Suffixes
-/

omit hg in
@[spec high] theorem memberName_takes (s : Text) : Takes s memberName Item.text := by
  unfold memberName
  mvcgen <;> simp_all

@[spec high] theorem subscript_takes (front : List Item) (s : Text) :
    TakesOn s (Item.textOf front) (subscript g front) Item.text := by
  unfold subscript
  mvcgen
  simp_all

@[spec high] theorem suffix_takes (setting : Setting) (constructed : Bool) (i : Item) (s : Text) :
    TakesOn s i.text (suffix g setting constructed i) fun j => (j.getD i).text := by
  unfold suffix
  mvcgen -trivial
  case vc5 =>
      intro t tree rest
      exact strip?_takes rfl
  all_goals first | assumption | simp_all +zetaDelta [-String.reduceToList]

@[spec high] theorem importOperand_takes (setting : Setting) (s : Text) :
    Takes s (importOperand g setting) Item.text := by
  unfold importOperand
  mvcgen -trivial <;> simp_all +zetaDelta [-String.reduceToList]

/-!
# Primary expressions
-/

@[spec high] theorem wordOperand_takes (setting : Setting) {w s : Text}
    (h : ∃ rest, Lexeme.word? (Lexeme.trivia true s).2 = some (w, rest)) :
    Takes s (wordOperand g setting w) Item.text := by
  unfold wordOperand
  mvcgen -trivial <;> simp_all [-String.reduceToList]

@[spec high] theorem primary_takes (setting : Setting) (s : Text) :
    Takes s (primary g setting) Item.text := by
  unfold primary
  mvcgen
  case vc20 =>
      intro t _ hnext
      subst_vars
      rw [← hnext]
      exact ⟨_, by assumption⟩
  all_goals simp_all

@[spec high] theorem chain_takes (s : Text) : Takes s (chain g) Item.text := by
  unfold chain
  mvcgen <;> simp_all

/-!
# Operands
-/

@[spec high] theorem assignment_takes (setting : Setting) (i : Item) (s : Text) :
    TakesOn s i.text (assignment g setting i) Item.text := by
  unfold assignment
  mvcgen -trivial
  case vc4 =>
      intro t tree rest
      exact strip?_takes rfl
  all_goals simp_all +zetaDelta [-String.reduceToList]

@[spec high] theorem constructedBy_takes (setting : Setting) (kw i : Item) (s : Text) :
    TakesOn s (kw.text ++ i.text) (constructedBy g setting kw i) Item.text := by
  unfold constructedBy
  mvcgen <;> simp_all +zetaDelta

@[spec high] theorem constructedByAll_takes (setting : Setting) (kws : List Item) (i : Item)
    (s : Text) :
    TakesOn s (Item.textOf kws.reverse ++ i.text) (constructedByAll g setting kws i)
      Item.text := by
  induction kws generalizing i with
  | nil =>
      unfold constructedByAll
      mvcgen
  | cons kw kws ih =>
      unfold constructedByAll
      mvcgen [ih, -constructedByAll_sound]
      simp_all

@[spec high] theorem newOperand_takes (setting : Setting) (s : Text) :
    Takes s (newOperand g setting) Item.text := by
  unfold newOperand
  mvcgen -trivial
  all_goals first | (intros; assumption) | simp_all +zetaDelta [-String.reduceToList]

@[spec high] theorem yieldOperand_takes (setting : Setting) (s : Text) :
    Takes s (yieldOperand g setting) Item.text := by
  unfold yieldOperand
  mvcgen -trivial <;> simp_all +zetaDelta [-String.reduceToList]

@[spec high] theorem privateIn_takes (setting : Setting) (s : Text) :
    Takes s (privateIn g setting) Item.text := by
  unfold privateIn
  mvcgen
  simp_all

@[spec high] theorem unary_takes (setting : Setting) {op : Parse Item}
    (h : ∀ s, Takes s op Item.text) (s : Text) : Takes s (unary g setting op) Item.text := by
  unfold unary
  mvcgen [h]
  simp_all

@[spec high] theorem prefixUpdate_takes (setting : Setting) (op : String) (s : Text) :
    Takes s (prefixUpdate g setting op) Item.text := by
  unfold prefixUpdate
  mvcgen
  simp_all

@[spec high] theorem operandOfWord_takes (setting : Setting) (w s : Text) :
    Takes s (operandOfWord g setting w) Item.text := by
  unfold operandOfWord
  mvcgen -trivial
  all_goals first | (intros; assumption) | simp_all +zetaDelta [-String.reduceToList]

@[spec high] theorem operand_takes (setting : Setting) (s : Text) :
    Takes s (operand g setting) Item.text := by
  unfold operand
  mvcgen -trivial
  all_goals first | (intros; assumption) | simp_all only

/-!
# Binary and conditional expressions
-/

@[spec high] theorem extend_takes (setting : Setting) (least : Nat) (l : Item) (s : Text) :
    TakesOn s l.text (extend g setting least l) fun j => (j.getD l).text := by
  unfold extend
  mvcgen -trivial
  case vc8 =>
      intro t tree rest
      exact strip?_takes rfl
  all_goals simp_all +zetaDelta [-String.reduceToList]

@[spec high] theorem binary_takes (setting : Setting) (least : Nat) (s : Text) :
    Takes s (binary g setting least) Item.text := by
  unfold binary
  mvcgen <;> simp_all

@[spec high] theorem expressionsFrom_takes (setting : Setting) (first : Item) (s : Text) :
    TakesOn s first.text (expressionsFrom g setting first) Item.text := by
  unfold expressionsFrom
  mvcgen <;> simp_all

end Parse
end ComponentDecl
