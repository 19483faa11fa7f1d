import Mathlib
import ComponentDecl.JsonValue

/-!
# Strings of JSON

A character of a string may be written as it is, by a short escape, by the number of its
unit, or by the numbers of its two halves.  Exactly these ways are read, and read as the
character.
-/

namespace ComponentDecl

/-!
# Characters in halves
-/

namespace Piece

/-- The pieces of a text: characters as they are, or as units, which are the halves of a
character beyond the first plane. -/
inductive Makes : List Piece → Text → Prop where
  | nil : Makes [] []
  | char {c : Char} {ps : List Piece} {t : Text} (h : Makes ps t) :
      Makes (.char c :: ps) (c :: t)
  | unit {c : Char} {ps : List Piece} {t : Text} (hc : c.toNat < 0x10000) (h : Makes ps t) :
      Makes (.unit c.toNat :: ps) (c :: t)
  | pair {c : Char} {ps : List Piece} {t : Text} (hc : 0x10000 ≤ c.toNat) (h : Makes ps t) :
      Makes (.unit (0xD800 + (c.toNat - 0x10000) / 0x400) ::
        .unit (0xDC00 + (c.toNat - 0x10000) % 0x400) :: ps) (c :: t)

/-- No character is a half. -/
theorem not_isHalf_toNat (c : Char) : isHigh c.toNat = false ∧ isLow c.toNat = false := by
  have hvalid := c.valid
  simp only [UInt32.isValidChar, Nat.isValidChar] at hvalid
  have hc : c.toNat = c.val.toNat := rfl
  simp only [isHigh, isLow, Bool.and_eq_false_iff, decide_eq_false_iff_not]
  omega

theorem toNat_lt (c : Char) : c.toNat < 0x110000 := by
  have hvalid := c.valid
  simp only [UInt32.isValidChar, Nat.isValidChar] at hvalid
  have hc : c.toNat = c.val.toNat := rfl
  omega

theorem text?_unit {c : Char} {ps : List Piece} {t : Text} (h : text? ps = some t) :
    text? (.unit c.toNat :: ps) = some (c :: t) := by
  rcases not_isHalf_toNat c with ⟨hhigh, hlow⟩
  cases ps with
  | nil =>
      obtain rfl : [] = t := Option.some.inj h
      simp [text?, hhigh, hlow]
  | cons p ps =>
      cases p with
      | unit m =>
          simp [text?, hhigh, hlow, h]
      | char d =>
          rw [text?] at h
          rcases Option.map_eq_some_iff.mp h with ⟨u, hu, rfl⟩
          simp [text?, hhigh, hlow, hu]

theorem joined_halves {c : Char} (hc : 0x10000 ≤ c.toNat) :
    joined (0xD800 + (c.toNat - 0x10000) / 0x400) (0xDC00 + (c.toNat - 0x10000) % 0x400) = c := by
  have hsum : 0x10000 + (0xD800 + (c.toNat - 0x10000) / 0x400 - 0xD800) * 0x400 +
      (0xDC00 + (c.toNat - 0x10000) % 0x400 - 0xDC00) = c.toNat := by
    omega
  rw [joined, hsum, Char.ofNat_toNat]

theorem text?_pair {c : Char} {ps : List Piece} {t : Text} (hc : 0x10000 ≤ c.toNat)
    (h : text? ps = some t) :
    text? (.unit (0xD800 + (c.toNat - 0x10000) / 0x400) ::
      .unit (0xDC00 + (c.toNat - 0x10000) % 0x400) :: ps) = some (c :: t) := by
  have hlt := toNat_lt c
  have hhigh : isHigh (0xD800 + (c.toNat - 0x10000) / 0x400) = true := by
    simp only [isHigh, Bool.and_eq_true, decide_eq_true_eq]
    omega
  have hlow : isLow (0xDC00 + (c.toNat - 0x10000) % 0x400) = true := by
    simp only [isLow, Bool.and_eq_true, decide_eq_true_eq]
    omega
  rw [text?, if_pos hhigh, if_pos hlow, h, joined_halves hc]
  rfl

/-- Pieces of a text are taken together again. -/
theorem Makes.text? {ps : List Piece} {t : Text} (h : Makes ps t) : text? ps = some t := by
  induction h with
  | nil =>
      rfl
  | char _ ih =>
      simp [Piece.text?, ih]
  | unit _ _ ih =>
      exact text?_unit ih
  | pair hc _ ih =>
      exact text?_pair hc ih

theorem Makes.unique {ps : List Piece} {s t : Text} (hs : Makes ps s) (ht : Makes ps t) :
    s = t :=
  Option.some.inj (hs.text?.symm.trans ht.text?)

theorem makes_chars (t : Text) : Makes (t.map .char) t := by
  induction t with
  | nil => exact .nil
  | cons c t ih => exact .char ih

theorem toNat_ofNat_of_unit {n : Nat} (hn : n < 0x10000) (hhigh : isHigh n = false)
    (hlow : isLow n = false) : (Char.ofNat n).toNat = n := by
  simp only [isHigh, isLow, Bool.and_eq_false_iff, decide_eq_false_iff_not] at hhigh hlow
  have hvalid : n.isValidChar := by
    simp only [Nat.isValidChar]
    omega
  rw [Char.toNat_ofNat, if_pos hvalid]

theorem toNat_joined {n m : Nat} (hn : isHigh n = true) (hm : isLow m = true) :
    (joined n m).toNat = 0x10000 + (n - 0xD800) * 0x400 + (m - 0xDC00) := by
  simp only [isHigh, isLow, Bool.and_eq_true, decide_eq_true_eq] at hn hm
  have hvalid : (0x10000 + (n - 0xD800) * 0x400 + (m - 0xDC00)).isValidChar := by
    simp only [Nat.isValidChar]
    omega
  rw [joined, Char.toNat_ofNat, if_pos hvalid]

theorem Makes.joined {n m : Nat} {ps : List Piece} {t : Text} (hn : isHigh n = true)
    (hm : isLow m = true) (h : Makes ps t) :
    Makes (.unit n :: .unit m :: ps) (Piece.joined n m :: t) := by
  have hsum := toNat_joined hn hm
  simp only [isHigh, isLow, Bool.and_eq_true, decide_eq_true_eq] at hn hm
  have hpair := Makes.pair (c := Piece.joined n m) (by omega) h
  rwa [show 0xD800 + ((Piece.joined n m).toNat - 0x10000) / 0x400 = n by omega,
    show 0xDC00 + ((Piece.joined n m).toNat - 0x10000) % 0x400 = m by omega] at hpair

theorem Makes.ofNat {n : Nat} {ps : List Piece} {t : Text} (hn : n < 0x10000)
    (hhalf : ¬ (isHigh n || isLow n) = true) (h : Makes ps t) :
    Makes (.unit n :: ps) (Char.ofNat n :: t) := by
  simp only [Bool.or_eq_true, not_or, Bool.not_eq_true] at hhalf
  have hchar := toNat_ofNat_of_unit hn hhalf.1 hhalf.2
  have hunit := Makes.unit (c := Char.ofNat n) (by omega) h
  rwa [hchar] at hunit

/-- Only the pieces of a text are taken together to it.  Escapes give no unit beyond sixteen
bits, which would be taken for no character at all. -/
theorem makes_of_text? {ps : List Piece} {t : Text} (hps : ∀ n, .unit n ∈ ps → n < 0x10000)
    (h : Piece.text? ps = some t) : Makes ps t := by
  fun_induction Piece.text? ps generalizing t with
  | case1 =>
      cases h
      exact .nil
  | case2 c rest ih =>
      rcases Option.map_eq_some_iff.mp h with ⟨u, hu, rfl⟩
      exact .char (ih (fun n hn => hps n (List.mem_cons_of_mem _ hn)) hu)
  | case3 n hhalf =>
      cases h
  | case4 n hhalf =>
      cases h
      exact .ofNat (hps n (List.mem_cons_self ..)) hhalf .nil
  | case5 n m rest hhigh hlow ih =>
      rcases Option.map_eq_some_iff.mp h with ⟨u, hu, rfl⟩
      exact .joined hhigh hlow (ih (fun k hk => hps k (by simp [hk])) hu)
  | case6 =>
      cases h
  | case7 =>
      cases h
  | case8 n m rest hhigh hlow ih =>
      rcases Option.map_eq_some_iff.mp h with ⟨u, hu, rfl⟩
      exact .ofNat (hps n (List.mem_cons_self ..)) (by simp [hhigh, hlow])
        (ih (fun k hk => hps k (List.mem_cons_of_mem _ hk)) hu)
  | case9 =>
      cases h
  | case10 n c rest hhalf ih =>
      rcases Option.map_eq_some_iff.mp h with ⟨u, hu, rfl⟩
      exact .ofNat (hps n (List.mem_cons_self ..)) hhalf
        (.char (ih (fun k hk => hps k (by simp [hk])) hu))

end Piece

namespace JsonValue

/-!
# Strings
-/

/-- A hexadecimal digit with its value, in either case. -/
def IsHexDigit (n : Nat) (c : Char) : Prop :=
  n < 16 ∧ (c = n.digitChar ∨ c = n.digitChar.toUpper)
  deriving Decidable

/-- Four hexadecimal digits with their value. -/
def IsHexUnit (n : Nat) (a b c d : Char) : Prop :=
  IsHexDigit (n / 0x1000) a ∧ IsHexDigit (n / 0x100 % 16) b ∧
    IsHexDigit (n / 0x10 % 16) c ∧ IsHexDigit (n % 16) d
  deriving Decidable

/-- The characters with a short escape, each with the letter or mark of it. -/
def shortEscapes : List (Char × Char) :=
  [('"', '"'), ('\\', '\\'), ('/', '/'), ('\x08', 'b'), ('\x0C', 'f'), ('\n', 'n'), ('\r', 'r'),
   ('\t', 't')]

/-- What stands between the quotes of a string, with the pieces it is read as. -/
inductive Body : List Piece → Text → Prop where
  | nil : Body [] []
  | char {c : Char} {ps : List Piece} {t : Text} (hc : 0x20 ≤ c.toNat) (hquote : c ≠ '"')
      (hslash : c ≠ '\\') (h : Body ps t) : Body (.char c :: ps) (c :: t)
  | short {c e : Char} {ps : List Piece} {t : Text} (he : (c, e) ∈ shortEscapes)
      (h : Body ps t) : Body (.char c :: ps) ('\\' :: e :: t)
  | unit {n : Nat} {a b c d : Char} {ps : List Piece} {t : Text} (hu : IsHexUnit n a b c d)
      (h : Body ps t) : Body (.unit n :: ps) ('\\' :: 'u' :: a :: b :: c :: d :: t)

theorem isHexDigit_digit {n : Nat} (h : n < 10) : IsHexDigit n (Char.ofNat (48 + n)) := by
  interval_cases n <;> decide

theorem isHexDigit_letter {n : Nat} (h : n < 6) :
    IsHexDigit (n + 10) (Char.ofNat (97 + n)) ∧ IsHexDigit (n + 10) (Char.ofNat (65 + n)) := by
  interval_cases n <;> decide

theorem ofNat_add_sub {c : Char} {n : Nat} (h : n ≤ c.toNat) :
    Char.ofNat (n + (c.toNat - n)) = c := by
  rw [Nat.add_sub_cancel' h, Char.ofNat_toNat]

theorem isHexDigit_of_hexDigit? {n : Nat} {c : Char} (h : hexDigit? c = some n) :
    IsHexDigit n c := by
  have hle (a b : Char) : a ≤ b ↔ a.toNat ≤ b.toNat := Iff.rfl
  simp only [hexDigit?, Bool.and_eq_true, decide_eq_true_eq, hle, Char.reduceToNat] at h
  split_ifs at h with hdigit hsmall hlarge
  · cases h
    have hc := isHexDigit_digit (n := c.toNat - 48) (by omega)
    rwa [ofNat_add_sub hdigit.1] at hc
  · cases h
    have hc := (isHexDigit_letter (n := c.toNat - 97) (by omega)).1
    rwa [ofNat_add_sub hsmall.1] at hc
  · cases h
    have hc := (isHexDigit_letter (n := c.toNat - 65) (by omega)).2
    rwa [ofNat_add_sub hlarge.1] at hc

theorem hexDigit?_eq_some {n : Nat} {c : Char} : hexDigit? c = some n ↔ IsHexDigit n c := by
  refine ⟨isHexDigit_of_hexDigit?, ?_⟩
  rintro ⟨hn, hc⟩
  interval_cases n <;> rcases hc with rfl | rfl <;> decide

theorem hexUnit?_eq_some {n : Nat} {a b c d : Char} :
    hexUnit? a b c d = some n ↔ IsHexUnit n a b c d := by
  simp only [hexUnit?, Option.bind_eq_bind, Option.bind_eq_some_iff, hexDigit?_eq_some,
    Option.pure_def, Option.some.injEq]
  constructor
  · rintro ⟨p, hp, q, hq, r, hr, s, hs, rfl⟩
    have hps := hp.1
    have hqs := hq.1
    have hrs := hr.1
    have hss := hs.1
    refine ⟨?_, ?_, ?_, ?_⟩
    · rwa [show (((p * 16 + q) * 16 + r) * 16 + s) / 0x1000 = p by omega]
    · rwa [show (((p * 16 + q) * 16 + r) * 16 + s) / 0x100 % 16 = q by omega]
    · rwa [show (((p * 16 + q) * 16 + r) * 16 + s) / 0x10 % 16 = r by omega]
    · rwa [show (((p * 16 + q) * 16 + r) * 16 + s) % 16 = s by omega]
  · rintro ⟨hp, hq, hr, hs⟩
    exact ⟨_, hp, _, hq, _, hr, _, hs, by omega⟩

theorem IsHexUnit.lt {n : Nat} {a b c d : Char} (h : IsHexUnit n a b c d) : n < 0x10000 := by
  have hlead := h.1.1
  omega

theorem shortEscape?_eq_some {c e : Char} : shortEscape? e = some c ↔ (c, e) ∈ shortEscapes := by
  constructor
  · intro h
    simp only [shortEscape?, Bool.or_eq_true, beq_iff_eq] at h
    split_ifs at h with hself hb hf hn hr ht
    · cases h
      rcases hself with (rfl | rfl) | rfl <;> decide
    all_goals
      subst e
      cases h
      decide
  · intro h
    simp only [shortEscapes, List.mem_cons, Prod.mk.injEq, List.not_mem_nil, or_false] at h
    rcases h with ⟨rfl, rfl⟩ | ⟨rfl, rfl⟩ | ⟨rfl, rfl⟩ | ⟨rfl, rfl⟩ | ⟨rfl, rfl⟩ | ⟨rfl, rfl⟩ |
      ⟨rfl, rfl⟩ | ⟨rfl, rfl⟩ <;> rfl

theorem Body.unit_lt {ps : List Piece} {t : Text} (h : Body ps t) :
    ∀ n, .unit n ∈ ps → n < 0x10000 := by
  induction h with
  | nil => simp
  | char _ _ _ _ ih => simpa using ih
  | short _ _ ih => simpa using ih
  | unit hu _ ih =>
      intro m hm
      rcases List.mem_cons.mp hm with heq | hm
      · cases heq
        exact hu.lt
      · exact ih m hm

theorem Body.text?_eq_some {ps : List Piece} {b t : Text} (h : Body ps b) :
    Piece.text? ps = some t ↔ Piece.Makes ps t :=
  ⟨Piece.makes_of_text? h.unit_lt, Piece.Makes.text?⟩

theorem pieces?_of_body {ps : List Piece} {b : Text} (h : Body ps b) (rest : Text) :
    pieces? (b ++ '"' :: rest) = some (ps, rest) := by
  induction h with
  | nil =>
      rfl
  | char hc hquote hslash _ ih =>
      have hlow : ¬ _ < 0x20 := Nat.not_lt.mpr hc
      simp [pieces?, hslash, hlow, ih]
  | @short c e _ _ he _ ih =>
      have hu : e ≠ 'u' := by
        rintro rfl
        simp [shortEscapes] at he
      simp [pieces?, hu, shortEscape?_eq_some.mpr he, ih]
  | unit hu _ ih =>
      simp [pieces?, hexUnit?_eq_some.mpr hu, ih]

theorem body_of_pieces? {ps : List Piece} {t rest : Text} (h : pieces? t = some (ps, rest)) :
    ∃ b, Body ps b ∧ t = b ++ '"' :: rest := by
  fun_induction pieces? t generalizing ps with
  | case1 =>
      cases h
  | case2 rest' =>
      cases h
      exact ⟨[], .nil, rfl⟩
  | case3 a b c d t ih =>
      simp only [Option.bind_eq_bind, Option.bind_eq_some_iff] at h
      rcases h with ⟨n, hn, ⟨qs, r⟩, hqs, hps⟩
      cases hps
      rcases ih hqs with ⟨u, hu, rfl⟩
      exact ⟨_, .unit (hexUnit?_eq_some.mp hn) hu, rfl⟩
  | case4 e t hnot ih =>
      simp only [Option.bind_eq_bind, Option.bind_eq_some_iff] at h
      rcases h with ⟨c, hc, ⟨qs, r⟩, hqs, hps⟩
      cases hps
      rcases ih hqs with ⟨u, hu, rfl⟩
      exact ⟨_, .short (shortEscape?_eq_some.mp hc) hu, rfl⟩
  | case5 c t _ _ _ hbad =>
      cases h
  | case6 c t hquote _ _ hbad ih =>
      simp only [Option.bind_eq_bind, Option.bind_eq_some_iff] at h
      rcases h with ⟨⟨qs, r⟩, hqs, hps⟩
      cases hps
      rcases ih hqs with ⟨u, hu, rfl⟩
      simp only [Bool.or_eq_true, decide_eq_true_eq, beq_iff_eq, not_or, Nat.not_lt] at hbad
      exact ⟨_, .char hbad.1 hquote hbad.2 hu, rfl⟩

theorem exists_isHexUnit {n : Nat} (hn : n < 0x10000) : ∃ a b c d, IsHexUnit n a b c d :=
  ⟨_, _, _, _, ⟨by omega, Or.inl rfl⟩, ⟨by omega, Or.inl rfl⟩, ⟨by omega, Or.inl rfl⟩,
    ⟨by omega, Or.inl rfl⟩⟩

/-- Every text can be written as a string. -/
theorem exists_body (t : Text) : ∃ ps b, Piece.Makes ps t ∧ Body ps b := by
  induction t with
  | nil => exact ⟨_, _, .nil, .nil⟩
  | cons c t ih =>
      rcases ih with ⟨ps, b, hps, hb⟩
      rcases Nat.lt_or_ge c.toNat 0x10000 with hc | hc
      · rcases exists_isHexUnit hc with ⟨_, _, _, _, hu⟩
        exact ⟨_, _, .unit hc hps, .unit hu hb⟩
      · have hlt := Piece.toNat_lt c
        rcases exists_isHexUnit (n := 0xD800 + (c.toNat - 0x10000) / 0x400) (by omega) with
          ⟨_, _, _, _, hhigh⟩
        rcases exists_isHexUnit (n := 0xDC00 + (c.toNat - 0x10000) % 0x400) (by omega) with
          ⟨_, _, _, _, hlow⟩
        exact ⟨_, _, .pair hc hps, .unit hhigh (.unit hlow hb)⟩

end JsonValue
end ComponentDecl
