import ComponentDecl.Parse.Expression
import ComponentDecl.Proofs.Parse.Class

set_option mvcgen.warning false

/-!
# Ends of elements

A literal that fits a pattern only is let through at the end of an element.  No member, call,
assignment or operator follows there, so the literal stays as it is.
-/

namespace ComponentDecl
namespace Parse

open Std.Do

/-- Texts that start with what can follow an element of a list. -/
def EndsElement : Text → Prop
  | [] => False
  | c :: _ => c = ',' ∨ c = ']' ∨ c = '}' ∨ c = ')'

/-- Texts in which the end of an element follows the trivia at the head. -/
def AtElementEnd (t : Text) : Prop :=
  EndsElement (Lexeme.trivia false t).2

theorem ahead_atElementEnd :
    ⦃fun t => ⌜AtElementEnd t⌝⦄ ahead false ⦃⇓? a t => ⌜EndsElement a.2 ∧ AtElementEnd t⌝⦄ := by
  apply triple_iff.mpr
  intro t a rest ht h
  rcases Prod.mk.inj (Except.ok.inj h) with ⟨rfl, rfl⟩
  exact ⟨ht, ht⟩

theorem next_atElementEnd :
    ⦃fun t => ⌜AtElementEnd t⌝⦄ next false ⦃⇓? r t => ⌜EndsElement r ∧ AtElementEnd t⌝⦄ := by
  unfold next
  mvcgen [ahead_atElementEnd]

theorem seesInserted_atElementEnd (operators : Bool) :
    ⦃fun t => ⌜AtElementEnd t⌝⦄ seesInserted operators ⦃⇓? _ t => ⌜AtElementEnd t⌝⦄ := by
  apply triple_iff.mpr
  intro t a rest ht h
  rcases Prod.mk.inj (Except.ok.inj h) with ⟨rfl, rfl⟩
  exact ht

@[spec] theorem seesElementEnd_sees :
    ⦃⌜True⌝⦄ seesElementEnd ⦃⇓? b t => ⌜b = true → AtElementEnd t⌝⦄ := by
  have hnext : ⦃⌜True⌝⦄ next false ⦃⇓? r t => ⌜r = (Lexeme.trivia false t).2⌝⦄ := by
    apply triple_iff.mpr
    intro t a rest _ h
    rcases Prod.mk.inj (Except.ok.inj h) with ⟨rfl, rfl⟩
    rfl
  unfold seesElementEnd
  mvcgen [-yields_true, hnext]
  · rename_i hcons
    intro hc
    rw [AtElementEnd, ← hcons]
    simpa [EndsElement, or_assoc] using hc
  · intro hfalse
    cases hfalse

theorem growWithin_atElementEnd {extend : Item → Parse (Option Item)} {i : Item}
    (h : ⦃fun t => ⌜AtElementEnd t⌝⦄ extend i ⦃⇓? j t => ⌜j = none ∧ AtElementEnd t⌝⦄) (fuel : Nat) :
    ⦃fun t => ⌜AtElementEnd t⌝⦄ growWithin extend fuel i
      ⦃⇓? j t => ⌜j = i ∧ AtElementEnd t⌝⦄ := by
  cases fuel with
  | zero =>
      unfold growWithin
      mvcgen
  | succ fuel =>
      unfold growWithin
      mvcgen [-yields_true, -yields_growWithin, h]
      · -- it would go on only after an extension, and there is none
        intro _ hnone
        cases hnone
      · assumption

theorem grow_atElementEnd {extend : Item → Parse (Option Item)} {i : Item}
    (h : ⦃fun t => ⌜AtElementEnd t⌝⦄ extend i ⦃⇓? j t => ⌜j = none ∧ AtElementEnd t⌝⦄) :
    ⦃fun t => ⌜AtElementEnd t⌝⦄ grow extend i ⦃⇓? j t => ⌜j = i ∧ AtElementEnd t⌝⦄ := by
  have hleft : ⦃fun t => ⌜AtElementEnd t⌝⦄ left ⦃⇓? _ t => ⌜AtElementEnd t⌝⦄ := by
    apply triple_iff.mpr
    intro t a rest ht h
    rcases Prod.mk.inj (Except.ok.inj h) with ⟨rfl, rfl⟩
    exact ht
  have hgrow := growWithin_atElementEnd h
  unfold grow
  mvcgen [-yields_true, -yields_growWithin, hleft, hgrow]

theorem suffix_atElementEnd {g : Grammar} (s : Setting) (b : Bool) (i : Item) :
    ⦃fun t => ⌜AtElementEnd t⌝⦄ suffix g s b i ⦃⇓? j t => ⌜j = none ∧ AtElementEnd t⌝⦄ := by
  unfold suffix
  mvcgen [-yields_true, next_atElementEnd, seesInserted_atElementEnd]
  all_goals grind [EndsElement]

/-- What can follow an element joins it with nothing. -/
theorem operator?_of_endsElement {t op : Text} (ht : EndsElement t)
    (hop : Lexeme.operator? t = some op) :
    op ≠ "=".toList ∧ op ≠ "?".toList ∧ Lexeme.assignmentOperators.contains op = false ∧
      Lexeme.binaryOperators.find? (·.1 == op) = none := by
  cases t with
  | nil =>
      cases ht
  | cons c rest =>
      have hc : Lexeme.operator? (c :: rest) = some [c] := by
        rcases ht with rfl | rfl | rfl | rfl <;> rfl
      obtain rfl : [c] = op := Option.some.inj (hc.symm.trans hop)
      rcases ht with rfl | rfl | rfl | rfl <;> decide

theorem assignment_atElementEnd {g : Grammar} (s : Setting) (i : Item) :
    ⦃fun t => ⌜AtElementEnd t⌝⦄ assignment g s i ⦃⇓? j t => ⌜j = i ∧ AtElementEnd t⌝⦄ := by
  unfold assignment
  mvcgen -trivial [-yields_true, next_atElementEnd, seesInserted_atElementEnd]
  all_goals grind [→ operator?_of_endsElement]

theorem extend_atElementEnd {g : Grammar} (s : Setting) (least : Nat) (i : Item) :
    ⦃fun t => ⌜AtElementEnd t⌝⦄ extend g s least i ⦃⇓? j t => ⌜j = none ∧ AtElementEnd t⌝⦄ := by
  unfold extend
  mvcgen -trivial [-yields_true, ahead_atElementEnd, seesInserted_atElementEnd]
  all_goals grind [→ operator?_of_endsElement]

/-!
# Nodes at the end of an element
-/

/-- Nodes that are sound, or open ones at the end of an element where a pattern may stand. -/
def Item.Fits (cover : Bool) (i : Item) (rest : Text) : Prop :=
  i.SoundNode ∨ cover = true ∧ i.OpenNode ∧ AtElementEnd rest

@[simp] theorem Item.fits_false {i : Item} {rest : Text} : i.Fits false rest ↔ i.SoundNode := by
  simp [Fits]

theorem Item.Fits.openNode {cover : Bool} {i : Item} {rest : Text} (h : i.Fits cover rest) :
    i.OpenNode := by
  rcases h with hsound | ⟨_, hopen, _⟩
  · exact ⟨hsound.1.isOpen, hsound.2⟩
  · exact hopen

theorem open_of_fits {p : Parse Item} {cover : Bool}
    (h : ⦃⌜True⌝⦄ p ⦃⇓? i t => ⌜i.Fits cover t⌝⦄) : Yields p Item.OpenNode := by
  rw [yields_iff]
  intro t i rest hp
  exact (triple_iff.mp h t i rest trivial hp).openNode

theorem sound_of_fits {p : Parse Item} {cover : Bool} (hcover : cover = false)
    (h : ⦃⌜True⌝⦄ p ⦃⇓? i t => ⌜i.Fits cover t⌝⦄) : Yields p Item.SoundNode := by
  subst hcover
  rw [yields_iff]
  intro t i rest hp
  exact Item.fits_false.mp (triple_iff.mp h t i rest trivial hp)

@[spec] theorem literalOrPattern_fits (s : Setting) {literal : Parse Item}
    (h : Yields literal Item.OpenNode) :
    ⦃⌜True⌝⦄ literalOrPattern s literal ⦃⇓? i t => ⌜i.Fits s.cover t⌝⦄ := by
  unfold literalOrPattern ensure
  mvcgen [h] 
  case vc3 =>
    rename_i i _ hopen _ _ _ _ sees _ hend hpass
    cases honly : i.isPatternOnly with
    | false =>
        exact Or.inl ⟨hopen.1.sound honly, hopen.2⟩
    | true =>
        rw [honly, Bool.not_true, Bool.false_or, Bool.and_eq_true] at hpass
        exact Or.inr ⟨hpass.1, hopen, hend hpass.2⟩
  all_goals simp_all [Item.Fits]

/-- What extends sound nodes, and nothing at the end of an element, keeps what fits. -/
theorem fits_of_atElementEnd {p : Parse Item} {i : Item} (hsound : i.SoundNode → Yields p Item.SoundNode)
    (hend : ⦃fun t => ⌜AtElementEnd t⌝⦄ p ⦃⇓? j t => ⌜j = i ∧ AtElementEnd t⌝⦄) (cover : Bool) :
    ⦃fun t => ⌜i.Fits cover t⌝⦄ p ⦃⇓? j t => ⌜j.Fits cover t⌝⦄ := by
  rw [triple_iff] at hend ⊢
  intro t j rest ht hp
  rcases ht with hi | ⟨hcover, hopen, hat⟩
  · exact Or.inl (yields_iff.mp (hsound hi) t j rest hp)
  · rcases hend t j rest hat hp with ⟨rfl, hrest⟩
    exact Or.inr ⟨hcover, hopen, hrest⟩

end Parse
end ComponentDecl
