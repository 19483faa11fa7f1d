import ComponentDecl.Lexeme.Markup
import ComponentDecl.Lexeme.Number
import ComponentDecl.Lexeme.Quoted
import Mathlib.Data.List.TakeDrop
import Mathlib.Data.List.TakeWhile

/-!
# The texts of lexemes

What the scanners can return: names are made of name characters and complete escapes,
numbers of digits and a few marks, and a block comment holds its end mark only at its end.
-/

namespace ComponentDecl

/-!
# Spans

A text is cut in two before the first character that does not fit.
-/

namespace Text

theorem span_eq_iff {p : Char → Bool} {t a b : Text} :
    t.span p = (a, b) ↔
      t = a ++ b ∧ (∀ c ∈ a, p c = true) ∧ ∀ c ∈ b.head?, p c = false := by
  rw [List.span_eq_takeWhile_dropWhile, Prod.mk.injEq]
  constructor
  · rintro ⟨rfl, rfl⟩
    refine ⟨List.takeWhile_append_dropWhile.symm, fun c hc => List.mem_takeWhile_imp hc, ?_⟩
    intro c hc
    have hnot := List.head?_dropWhile_not p t
    rw [hc] at hnot
    exact hnot
  · rintro ⟨rfl, ha, hb⟩
    have htake : List.takeWhile p a = a := List.takeWhile_eq_self_iff.mpr ha
    have hdrop : List.dropWhile p a = [] := List.dropWhile_eq_nil_iff.mpr ha
    cases b with
    | nil =>
        simp [htake, hdrop]
    | cons c rest =>
        have hc : p c = false := hb c rfl
        simp [List.takeWhile_append_of_pos ha, List.dropWhile_append_of_pos ha, hc]

/-- Two texts that are cut at the same place have the same parts. -/
theorem append_inj_of_span {p : Char → Bool} {s t r r' : Text}
    (hs : ∀ c ∈ s, p c = true) (ht : ∀ c ∈ t, p c = true) (hr : ∀ c ∈ r.head?, p c = false)
    (hr' : ∀ c ∈ r'.head?, p c = false) (h : s ++ r = t ++ r') : s = t ∧ r = r' := by
  have hleft : (s ++ r).span p = (s, r) := span_eq_iff.mpr ⟨rfl, hs, hr⟩
  have hright : (s ++ r).span p = (t, r') := span_eq_iff.mpr ⟨h, ht, hr'⟩
  exact Prod.mk.inj (hleft.symm.trans hright)

theorem span_spec (p : Char → Bool) (t : Text) :
    t = (t.span p).1 ++ (t.span p).2 ∧ (∀ c ∈ (t.span p).1, p c = true) ∧
      ∀ c ∈ (t.span p).2.head?, p c = false :=
  span_eq_iff.mp rfl

end Text

namespace Lexeme

/-!
# Names
-/

/-- Whether a character can stand in a name outside an escape. -/
def isNameChar (c : Char) : Bool :=
  isWordChar c || isLetter c || isDigit c || c == '_' || c == '$' || c == '-'

/-- The escapes for a character by its number. -/
inductive IsEscape : Text → Prop where
  | braced {ds : Text} (h : ∀ d ∈ ds, isHex d = true) :
      IsEscape (['\\', 'u', '{'] ++ ds ++ ['}'])
  | fixed {ds : Text} (h : ∀ d ∈ ds, isHex d = true) : IsEscape (['\\', 'u'] ++ ds)

/-- Texts of name characters and escapes.  Words are such texts, and so are the names of
elements and attributes with hyphens in them. -/
inductive IsName : Text → Prop where
  | nil : IsName []
  | char {c : Char} {t : Text} (hc : isNameChar c = true) (ht : IsName t) : IsName (c :: t)
  | escape {e t : Text} (he : IsEscape e) (ht : IsName t) : IsName (e ++ t)

theorem unicodeEscape?_isEscape {t e rest : Text} (h : unicodeEscape? t = some (e, rest)) :
    IsEscape e := by
  unfold unicodeEscape? at h
  split at h
  · rename_i tail
    cases hspan : tail.span isHex with
    | mk ds more =>
        have hds : ∀ d ∈ ds, isHex d = true := (Text.span_eq_iff.mp hspan).2.1
        rw [hspan] at h
        split at h
        · rename_i d ds' more' heq
          rcases Prod.mk.inj heq with ⟨rfl, rfl⟩
          rcases Prod.mk.inj (Option.some.inj h) with ⟨rfl, rfl⟩
          exact IsEscape.braced hds
        · cases h
  · rename_i a b c d tail hne
    split at h
    · rename_i hhex
      simp only [Bool.and_eq_true] at hhex
      rcases Prod.mk.inj (Option.some.inj h) with ⟨rfl, rfl⟩
      have hfixed : IsEscape (['\\', 'u'] ++ [a, b, c, d]) := IsEscape.fixed (by simp [hhex])
      exact hfixed
    · cases h
  · cases h

theorem isNameChar_of_isWordChar {c : Char} (h : isWordChar c = true) :
    isNameChar c = true := by
  simp [isNameChar, h]

theorem wordTail_isName (fuel : Nat) (t : Text) : IsName (wordTail fuel t).1 := by
  fun_induction wordTail fuel t with
  | case1 t =>
      exact IsName.nil
  | case2 fuel =>
      exact IsName.nil
  | case3 fuel c rest hc more rest' heq ih =>
      rw [heq] at ih
      exact IsName.char (isNameChar_of_isWordChar hc) ih
  | case4 fuel c rest hc e rest' he more rest'' heq ih =>
      rw [heq] at ih
      exact IsName.escape (unicodeEscape?_isEscape he) ih
  | case5 fuel c rest hc he =>
      exact IsName.nil

theorem word?_isName {t w rest : Text} (h : word? t = some (w, rest)) : IsName w := by
  unfold word? at h
  split at h
  · cases h
  · rename_i c tail
    split at h
    · rename_i hc
      unfold isWordStart at hc
      rw [Bool.and_eq_true] at hc
      rcases Prod.mk.inj (Option.some.inj h) with ⟨rfl, rfl⟩
      exact IsName.char (isNameChar_of_isWordChar hc.1) (wordTail_isName _ _)
    · rcases Option.map_eq_some_iff.mp h with ⟨⟨e, tail'⟩, he, hw⟩
      rcases Prod.mk.inj hw with ⟨rfl, rfl⟩
      exact IsName.escape (unicodeEscape?_isEscape he) (wordTail_isName _ _)

theorem isName_of_all {t : Text} (h : ∀ c ∈ t, isNameChar c = true) : IsName t := by
  induction t with
  | nil =>
      exact IsName.nil
  | cons c rest ih =>
      exact IsName.char (h c List.mem_cons_self)
        (ih fun d hd => h d (List.mem_cons_of_mem c hd))

theorem hyphenated?_isName {t w rest : Text} (h : hyphenated? t = some (w, rest)) :
    IsName w := by
  unfold hyphenated? at h
  split at h
  · rename_i c tail
    dsimp only at h
    split at h
    · rename_i hc
      split at h
      · rename_i after _
        rcases Prod.mk.inj (Option.some.inj h) with ⟨rfl, rfl⟩
        apply isName_of_all
        intro d hd
        simp only [List.cons_append, List.mem_cons, List.mem_append] at hd
        rcases hd with rfl | hd | rfl | hd
        · simp only [Bool.or_eq_true] at hc
          rcases hc with (hc | hc) | hc <;> simp [isNameChar, hc]
        · have hd' := (Text.span_spec _ _).2.1 d hd
          simp only [Bool.or_eq_true] at hd'
          rcases hd' with ((hd' | hd') | hd') | hd' <;> simp [isNameChar, hd']
        · decide
        · have hd' := (Text.span_spec _ _).2.1 d hd
          simp only [Bool.or_eq_true] at hd'
          rcases hd' with (((hd' | hd') | hd') | hd') | hd' <;> simp [isNameChar, hd']
      · cases h
    · cases h
  · cases h

/-- Names that do not begin with a digit. -/
def IsWord (t : Text) : Prop :=
  IsName t ∧ ∀ c ∈ t.head?, isDigit c = false

theorem IsEscape.head? {e : Text} (h : IsEscape e) (t : Text) : (e ++ t).head? = some '\\' := by
  cases h <;> rfl

theorem word?_isWord {t w rest : Text} (h : word? t = some (w, rest)) : IsWord w := by
  refine ⟨word?_isName h, ?_⟩
  intro d hd
  unfold word? at h
  split at h
  · cases h
  · rename_i c tail
    split at h
    · rename_i hc
      unfold isWordStart at hc
      rcases Prod.mk.inj (Option.some.inj h) with ⟨rfl, rfl⟩
      rcases Option.some.inj hd with rfl
      simpa using (Bool.and_eq_true_iff.mp hc).2
    · rcases Option.map_eq_some_iff.mp h with ⟨⟨e, tail'⟩, he, hw⟩
      rcases Prod.mk.inj hw with ⟨rfl, rfl⟩
      have hhead := (unicodeEscape?_isEscape he).head? (wordTail tail'.length tail').1
      rcases Option.some.inj (hhead.symm.trans hd) with rfl
      decide

theorem hyphenated?_isWord {t w rest : Text} (h : hyphenated? t = some (w, rest)) :
    IsWord w := by
  refine ⟨hyphenated?_isName h, ?_⟩
  intro d hd
  unfold hyphenated? at h
  split at h
  · rename_i c tail
    dsimp only at h
    split at h
    · rename_i hc
      split at h
      · rcases Prod.mk.inj (Option.some.inj h) with ⟨rfl, rfl⟩
        rcases Option.some.inj hd with rfl
        simp only [isLetter, isDigit, Bool.or_eq_true, Bool.and_eq_true, decide_eq_true_eq,
          beq_iff_eq] at hc ⊢
        rcases hc with (hc | rfl) | rfl
        · simp only [Bool.and_eq_false_iff, decide_eq_false_iff_not]
          omega
        · decide
        · decide
      · cases h
    · cases h
  · cases h

/-!
# Numbers
-/

/-- Whether a character can stand in a number. -/
def isNumeralChar (c : Char) : Bool :=
  isHex c || ['x', 'X', 'o', 'O', '_', '.', '+', '-', 'n'].contains c

/-- Texts of digits and the marks of numbers. -/
def IsNumeral (t : Text) : Prop :=
  ∀ c ∈ t, isNumeralChar c = true

theorem isNumeral_nil : IsNumeral [] := by
  intro c hc
  cases hc

theorem isNumeral_cons {c : Char} {t : Text} (hc : isNumeralChar c = true)
    (ht : IsNumeral t) : IsNumeral (c :: t) := by
  intro d hd
  rcases List.mem_cons.mp hd with rfl | hd
  · exact hc
  · exact ht d hd

theorem isNumeral_append {s t : Text} (hs : IsNumeral s) (ht : IsNumeral t) :
    IsNumeral (s ++ t) := by
  intro d hd
  rcases List.mem_append.mp hd with hd | hd
  · exact hs d hd
  · exact ht d hd

theorem isNumeralChar_of_isDigit {c : Char} (h : isDigit c = true) :
    isNumeralChar c = true := by
  simp [isNumeralChar, isHex, h]

section Digits

variable {p : Char → Bool} (hp : ∀ c, p c = true → isNumeralChar c = true)

include hp

theorem moreDigits_isNumeral (t : Text) : IsNumeral (moreDigits p t) := by
  fun_induction moreDigits p t with
  | case1 c rest hc ih =>
      exact isNumeral_cons (by decide) (isNumeral_cons (hp c hc) ih)
  | case2 c rest hc =>
      exact isNumeral_nil
  | case3 c rest hne hc ih =>
      exact isNumeral_cons (hp c hc) ih
  | case4 c rest hne hc =>
      exact isNumeral_nil
  | case5 =>
      exact isNumeral_nil

theorem digits_isNumeral (t : Text) : IsNumeral (digits p t) := by
  unfold digits
  split
  · split
    · rename_i hc
      exact isNumeral_cons (hp _ hc) (moreDigits_isNumeral hp _)
    · exact isNumeral_nil
  · exact isNumeral_nil

theorem based_isNumeral {low high : Char} (hl : isNumeralChar low = true)
    (hh : isNumeralChar high = true) (t : Text) : IsNumeral (based low high p t) := by
  unfold based
  split
  · rename_i m rest
    split
    · rename_i hm
      have hm' : isNumeralChar m = true := by
        simp only [Bool.or_eq_true, beq_iff_eq] at hm
        rcases hm with rfl | rfl
        · exact hl
        · exact hh
      split
      · exact isNumeral_nil
      · exact isNumeral_cons (by decide) (isNumeral_cons hm' (digits_isNumeral hp _))
    · exact isNumeral_nil
  · exact isNumeral_nil

end Digits

theorem exponent_isNumeral (t : Text) : IsNumeral (exponent t) := by
  have hd := digits_isNumeral fun c => isNumeralChar_of_isDigit (c := c)
  unfold exponent
  split
  · rename_i e rest
    split
    · rename_i he
      have he' : isNumeralChar e = true := by
        simp only [Bool.or_eq_true, beq_iff_eq] at he
        rcases he with rfl | rfl <;> decide
      split
      · rename_i s more
        split
        · rename_i hs
          have hs' : isNumeralChar s = true := by
            simp only [Bool.or_eq_true, beq_iff_eq] at hs
            rcases hs with rfl | rfl <;> decide
          split
          · exact isNumeral_nil
          · exact isNumeral_cons he' (isNumeral_cons hs' (hd _))
        · split
          · exact isNumeral_nil
          · exact isNumeral_cons he' (hd _)
      · exact isNumeral_nil
    · exact isNumeral_nil
  · exact isNumeral_nil

theorem fraction_isNumeral (t : Text) : IsNumeral (fraction t) := by
  have hd := digits_isNumeral fun c => isNumeralChar_of_isDigit (c := c)
  unfold fraction
  split
  · exact isNumeral_append (isNumeral_cons (by decide) (hd _)) (exponent_isNumeral _)
  · exact exponent_isNumeral _

theorem decimal_isNumeral (t : Text) : IsNumeral (decimal t) := by
  have hd := digits_isNumeral fun c => isNumeralChar_of_isDigit (c := c)
  unfold decimal
  split
  · split
    · split
      · exact isNumeral_nil
      · exact isNumeral_append (isNumeral_cons (by decide) (hd _)) (exponent_isNumeral _)
    · exact isNumeral_nil
  · dsimp only
    split
    · exact isNumeral_append (hd t) (fraction_isNumeral _)
    · exact hd t

theorem withBigMark_isNumeral {numeral : Text} (h : IsNumeral numeral) (t : Text) :
    IsNumeral (withBigMark numeral t) := by
  unfold withBigMark
  split
  · exact isNumeral_append h (isNumeral_cons (by decide) isNumeral_nil)
  · exact h

theorem of_longer {P : Text → Prop} {s t : Text} (hs : P s) (ht : P t) : P (longer s t) := by
  unfold longer
  split
  · exact ht
  · exact hs

theorem number?_isNumeral {t n rest : Text} (h : number? t = some (n, rest)) :
    IsNumeral n := by
  have hhex : ∀ c, isHex c = true → isNumeralChar c = true := by
    intro c hc
    simp [isNumeralChar, hc]
  have hbin : ∀ c, (c == '0' || c == '1') = true → isNumeralChar c = true := by
    intro c hc
    simp only [Bool.or_eq_true, beq_iff_eq] at hc
    rcases hc with rfl | rfl <;> decide
  have hoct : ∀ c : Char, (decide ('0' ≤ c) && decide (c ≤ '7')) = true →
      isNumeralChar c = true := by
    intro c hc
    simp only [Bool.and_eq_true, decide_eq_true_eq] at hc
    have h₁ : 48 ≤ c.toNat := hc.1
    have h₂ : c.toNat ≤ 55 := hc.2
    have hdigit : isDigit c = true := by
      simp only [isDigit, Bool.and_eq_true, decide_eq_true_eq]
      omega
    exact isNumeralChar_of_isDigit hdigit
  unfold number? at h
  dsimp only at h
  split at h
  · cases h
  · rcases Prod.mk.inj (Option.some.inj h) with ⟨rfl, rfl⟩
    simp only [List.foldl_cons, List.foldl_nil]
    apply of_longer
    · apply of_longer
      · apply of_longer
        · apply of_longer
          · exact decimal_isNumeral t
          · exact withBigMark_isNumeral (based_isNumeral hhex (by decide) (by decide) t) t
        · exact withBigMark_isNumeral (based_isNumeral hbin (by decide) (by decide) t) t
      · exact withBigMark_isNumeral (based_isNumeral hoct (by decide) (by decide) t) t
    · exact withBigMark_isNumeral
        (digits_isNumeral (fun c => isNumeralChar_of_isDigit (c := c)) t) t

/-- Texts that are empty or begin with a digit or a point. -/
def StartsNumber (t : Text) : Prop :=
  ∀ c ∈ t.head?, (isDigit c || c == '.') = true

/-- Numerals that begin with a digit or a point. -/
def IsNumber (t : Text) : Prop :=
  IsNumeral t ∧ t ≠ [] ∧ StartsNumber t

theorem startsNumber_nil : StartsNumber [] := by
  intro c hc
  cases hc

theorem startsNumber_cons {c : Char} (h : (isDigit c || c == '.') = true) (t : Text) :
    StartsNumber (c :: t) := by
  intro d hd
  rcases Option.some.inj hd with rfl
  exact h

theorem StartsNumber.append {s : Text} (h : StartsNumber s) (hs : s ≠ []) (t : Text) :
    StartsNumber (s ++ t) := by
  cases s with
  | nil =>
      exact absurd rfl hs
  | cons c rest =>
      exact h

theorem digits_startsNumber (t : Text) : StartsNumber (digits isDigit t) := by
  unfold digits
  split
  · split
    · rename_i hc
      exact startsNumber_cons (by simp [hc]) _
    · exact startsNumber_nil
  · exact startsNumber_nil

theorem based_startsNumber (low high : Char) (p : Char → Bool) (t : Text) :
    StartsNumber (based low high p t) := by
  unfold based
  split
  · split
    · split
      · exact startsNumber_nil
      · exact startsNumber_cons (by decide) _
    · exact startsNumber_nil
  · exact startsNumber_nil

theorem decimal_startsNumber (t : Text) : StartsNumber (decimal t) := by
  have hdigits := digits_startsNumber t
  unfold decimal
  split
  · split
    · split
      · exact startsNumber_nil
      · exact startsNumber_cons (by decide) _
    · exact startsNumber_nil
  · rename_i hne
    dsimp only
    split
    · exact hdigits.append hne _
    · exact hdigits

theorem withBigMark_startsNumber {numeral : Text} (h : StartsNumber numeral) (t : Text) :
    StartsNumber (withBigMark numeral t) := by
  unfold withBigMark
  split
  · exact h.append (by simp) _
  · exact h

theorem number?_isNumber {t n rest : Text} (h : number? t = some (n, rest)) : IsNumber n := by
  refine ⟨number?_isNumeral h, ?_⟩
  unfold number? at h
  dsimp only at h
  split at h
  · cases h
  · rename_i hempty
    rcases Prod.mk.inj (Option.some.inj h) with ⟨rfl, rfl⟩
    refine ⟨by simpa using hempty, ?_⟩
    simp only [List.foldl_cons, List.foldl_nil]
    apply of_longer
    · apply of_longer
      · apply of_longer
        · apply of_longer
          · exact decimal_startsNumber t
          · exact withBigMark_startsNumber (based_startsNumber _ _ _ t) t
        · exact withBigMark_startsNumber (based_startsNumber _ _ _ t) t
      · exact withBigMark_startsNumber (based_startsNumber _ _ _ t) t
    · exact withBigMark_startsNumber (digits_startsNumber t) t

/-!
# Comments
-/

/-- Texts without the end mark of a block comment. -/
def NoEnd (t : Text) : Prop :=
  ¬ ['*', '/'] <:+: t

theorem noEnd_nil : NoEnd [] := by
  intro h
  cases List.infix_nil.mp h

theorem noEnd_cons {c : Char} {t : Text} :
    NoEnd (c :: t) ↔ ¬(c = '*' ∧ t.head? = some '/') ∧ NoEnd t := by
  unfold NoEnd
  rw [List.infix_cons_iff, not_or]
  have hhead : ['*', '/'] <+: c :: t ↔ c = '*' ∧ t.head? = some '/' := by
    cases t with
    | nil =>
        simp [List.cons_prefix_cons]
    | cons d rest =>
        simp [List.cons_prefix_cons, eq_comm]
  rw [hhead]

/-- Texts that hold the end mark of a block comment only at their end, if they are block
comments at all. -/
def IsComment (t : Text) : Prop :=
  ∀ b, t = ['/', '*'] ++ b ++ ['*', '/'] → NoEnd b

theorem throughBlockEnd_spec {t u rest : Text} (h : throughBlockEnd t = some (u, rest)) :
    ∃ b, u = b ++ ['*', '/'] ∧ NoEnd b ∧ t = u ++ rest := by
  fun_induction throughBlockEnd t generalizing u with
  | case1 =>
      cases h
  | case2 tail =>
      rcases Prod.mk.inj (Option.some.inj h) with ⟨rfl, rfl⟩
      exact ⟨[], rfl, noEnd_nil, rfl⟩
  | case3 c tail hne ih =>
      rcases Option.map_eq_some_iff.mp h with ⟨⟨v, rest'⟩, hv, heq⟩
      rcases Prod.mk.inj heq with ⟨rfl, rfl⟩
      rcases ih hv with ⟨b, rfl, hb, htail⟩
      refine ⟨c :: b, rfl, ?_, by simp [htail]⟩
      rw [noEnd_cons]
      refine ⟨?_, hb⟩
      rintro ⟨rfl, hhead⟩
      cases b with
      | nil =>
          cases hhead
      | cons d b' =>
          have hd : d = '/' := Option.some.inj hhead
          subst hd
          exact hne (b' ++ ['*', '/'] ++ rest') rfl (by simpa using htail)

theorem comment?_isComment {t c rest : Text} (h : comment? t = some (c, rest)) :
    IsComment c := by
  unfold comment? at h
  split at h
  · rcases Prod.mk.inj (Option.some.inj h) with ⟨rfl, rfl⟩
    intro b hb
    simp at hb
  · rcases Option.map_eq_some_iff.mp h with ⟨⟨v, rest'⟩, hv, heq⟩
    rcases Prod.mk.inj heq with ⟨rfl, rfl⟩
    rcases throughBlockEnd_spec hv with ⟨b', rfl, hb', _⟩
    intro b hb
    have : b = b' := by simpa using hb.symm
    rw [this]
    exact hb'
  · cases h

theorem isComment_append {blank c : Text} (hb : ∀ d ∈ blank, isGap d = true)
    (hc : IsComment c) : IsComment (blank ++ c) := by
  cases blank with
  | nil =>
      exact hc
  | cons d rest =>
      intro b hb'
      have hd : d = '/' := by simpa using congrArg List.head? hb'
      have hgap := hb d List.mem_cons_self
      rw [hd] at hgap
      exact absurd hgap (by decide)

end Lexeme
end ComponentDecl
