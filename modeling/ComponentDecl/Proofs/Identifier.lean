import Mathlib
import ComponentDecl.Props
import ComponentDecl.Proofs.Unicode

/-!
# Identifier names

The library takes a name for plain by its letters and numerals.  A plain name is an identifier
name unless it has a letter or numeral that no identifier has there.
-/

namespace ComponentDecl
namespace Text

/-!
# Differences of tables

Which characters are in one table and not in another is a question about all characters;
taking the ranges of the one out of the other answers it in one pass over both tables.
-/

/-- Whether a table has its ranges in increasing order, none below a code point. -/
def increasingFrom (least : Nat) : List (Nat × Nat) → Bool
  | [] => true
  | (low, high) :: rest => least ≤ low && low ≤ high && increasingFrom (high + 1) rest

/-- A code point lies in one of the ranges of a table. -/
def Within (n : Nat) (table : List (Nat × Nat)) : Prop :=
  ∃ r ∈ table, r.1 ≤ n ∧ n ≤ r.2

/-- What is left of a range without the ranges of a table, and the part of the table that
does not end before the range does. -/
def cut (low high : Nat) : List (Nat × Nat) → List (Nat × Nat) × List (Nat × Nat)
  | [] => ([(low, high)], [])
  | (l, h) :: rest =>
      if h < low then cut low high rest
      else if high < l then ([(low, high)], (l, h) :: rest)
      else
        let front := if low < l then [(low, l - 1)] else []
        if h < high then
          let (more, left) := cut (h + 1) high rest
          (front ++ more, left)
        else (front, (l, h) :: rest)

/-- What is left of a table without the ranges of another. -/
def minus : List (Nat × Nat) → List (Nat × Nat) → List (Nat × Nat)
  | [], _ => []
  | (low, high) :: rest, other =>
      let (pieces, left) := cut low high other
      pieces ++ minus rest left

@[simp] theorem not_within_nil (n : Nat) : ¬ Within n [] := by
  simp [Within]

@[simp] theorem within_cons {n : Nat} {r : Nat × Nat} {table : List (Nat × Nat)} :
    Within n (r :: table) ↔ r.1 ≤ n ∧ n ≤ r.2 ∨ Within n table := by
  simp [Within]

@[simp] theorem within_append {n : Nat} {table other : List (Nat × Nat)} :
    Within n (table ++ other) ↔ Within n table ∨ Within n other := by
  simp [Within, or_and_right, exists_or]

theorem increasingFrom_cons {least low high : Nat} {rest : List (Nat × Nat)} :
    increasingFrom least ((low, high) :: rest) = true ↔
      least ≤ low ∧ low ≤ high ∧ increasingFrom (high + 1) rest = true := by
  simp [increasingFrom, and_assoc]

theorem le_of_within {least n : Nat} {table : List (Nat × Nat)}
    (h : increasingFrom least table = true) (hn : Within n table) : least ≤ n := by
  induction table generalizing least with
  | nil =>
      simp at hn
  | cons r rest ih =>
      rcases increasingFrom_cons.mp h with ⟨hlow, hhigh, hrest⟩
      rcases within_cons.mp hn with ⟨hle, _⟩ | hn
      · omega
      · have hlater := ih hrest hn
        omega

theorem inRanges_iff {least n : Nat} {table : List (Nat × Nat)}
    (h : increasingFrom least table = true) : inRanges n table = true ↔ Within n table := by
  induction table generalizing least with
  | nil =>
      simp [inRanges]
  | cons r rest ih =>
      rcases increasingFrom_cons.mp h with ⟨_, hhigh, hrest⟩
      rw [inRanges, within_cons]
      by_cases hn : n < r.1
      · have hlater : ¬ Within n rest := fun hw => by
          have hle := le_of_within hrest hw
          omega
        simp only [if_pos hn, Bool.false_eq_true, hlater, or_false, false_iff, not_and]
        omega
      · simp only [if_neg hn, Bool.or_eq_true, decide_eq_true_eq, ih hrest]
        have hle : r.1 ≤ n := Nat.le_of_not_lt hn
        simp [hle]

/-- Nothing is lost of the table above the range. -/
theorem cut_left {least low high : Nat} {table : List (Nat × Nat)}
    (h : increasingFrom least table = true) (hle : low ≤ high) :
    (∃ least, increasingFrom least (cut low high table).2 = true) ∧
      ∀ n, high < n → (Within n (cut low high table).2 ↔ Within n table) := by
  induction table generalizing least low with
  | nil =>
      exact ⟨⟨0, rfl⟩, fun _ _ => Iff.rfl⟩
  | cons r rest ih =>
      have hwhole : increasingFrom least (r :: rest) = true := h
      rcases increasingFrom_cons.mp h with ⟨_, hr, hrest⟩
      unfold cut
      by_cases hbelow : r.2 < low
      · rw [if_pos hbelow]
        rcases ih hrest hle with ⟨hleft, hwithin⟩
        refine ⟨hleft, ?_⟩
        intro n hn
        rw [hwithin n hn, within_cons]
        exact ⟨Or.inr, fun hw => hw.resolve_left (by omega)⟩
      · rw [if_neg hbelow]
        by_cases habove : high < r.1
        · rw [if_pos habove]
          exact ⟨⟨least, hwhole⟩, fun _ _ => Iff.rfl⟩
        · rw [if_neg habove]
          by_cases hinside : r.2 < high
          · simp only [if_pos hinside]
            rcases ih hrest (by omega : r.2 + 1 ≤ high) with ⟨hleft, hwithin⟩
            refine ⟨hleft, ?_⟩
            intro n hn
            rw [hwithin n hn, within_cons]
            exact ⟨Or.inr, fun hw => hw.resolve_left (by omega)⟩
          · simp only [if_neg hinside]
            exact ⟨⟨least, hwhole⟩, fun _ _ => trivial⟩

theorem within_cut {least low high n : Nat} {table : List (Nat × Nat)}
    (h : increasingFrom least table = true) :
    Within n (cut low high table).1 ↔ low ≤ n ∧ n ≤ high ∧ ¬ Within n table := by
  induction table generalizing least low with
  | nil =>
      simp [cut]
  | cons r rest ih =>
      rcases increasingFrom_cons.mp h with ⟨_, hr, hrest⟩
      have hlater : Within n rest → r.2 < n := fun hw => le_of_within hrest hw
      unfold cut
      by_cases hbelow : r.2 < low
      · rw [if_pos hbelow, ih hrest, within_cons]
        grind
      · rw [if_neg hbelow]
        by_cases habove : high < r.1
        · rw [if_pos habove]
          simp only [within_cons, not_within_nil, or_false]
          grind
        · rw [if_neg habove]
          have hfront : Within n (if low < r.1 then [(low, r.1 - 1)] else []) ↔
              low ≤ n ∧ n < r.1 := by
            split
            · simp only [within_cons, not_within_nil, or_false]
              omega
            · simp only [not_within_nil, false_iff]
              omega
          by_cases hinside : r.2 < high
          · simp only [if_pos hinside, within_append, hfront, ih hrest, within_cons]
            grind
          · simp only [if_neg hinside, hfront, within_cons]
            grind

/-- A difference has what is in the one table and not in the other. -/
theorem within_minus {least start n : Nat} {table other : List (Nat × Nat)}
    (h : increasingFrom least table = true) (hother : increasingFrom start other = true) :
    Within n (minus table other) ↔ Within n table ∧ ¬ Within n other := by
  induction table generalizing least start other with
  | nil =>
      simp [minus]
  | cons r rest ih =>
      rcases increasingFrom_cons.mp h with ⟨_, hr, hrest⟩
      rcases cut_left hother hr with ⟨⟨_, hleft⟩, hwithin⟩
      have hlater : Within n rest → r.2 < n := fun hw => le_of_within hrest hw
      simp only [minus, within_append, within_cut hother, within_cons, ih hrest hleft]
      grind

/-!
# Letters and numerals

A letter or numeral starts an identifier, or goes on with one, or is a stray, and is only one
of these.
-/

/-- Whether the code points of a table are all starters, joiners or strays. -/
def isSorted (table : List (Nat × Nat)) : Bool :=
  let left := minus table starterRanges
  let others := minus left joinerRanges
  increasingFrom 0 table && increasingFrom 0 left && increasingFrom 0 others &&
    (minus others strayRanges).isEmpty

theorem increasing_tables :
    increasingFrom 0 starterRanges = true ∧ increasingFrom 0 joinerRanges = true ∧
      increasingFrom 0 strayRanges = true := by
  decide +kernel

theorem isSorted_tables : isSorted letterRanges = true ∧ isSorted numeralRanges = true := by
  decide +kernel

/-- No two of the tables share a code point. -/
theorem minus_tables :
    minus joinerRanges starterRanges = joinerRanges ∧
      minus strayRanges starterRanges = strayRanges ∧
        minus strayRanges joinerRanges = strayRanges := by
  decide +kernel

theorem increasing_starterRanges : increasingFrom 0 starterRanges = true :=
  increasing_tables.1

theorem increasing_joinerRanges : increasingFrom 0 joinerRanges = true :=
  increasing_tables.2.1

theorem increasing_strayRanges : increasingFrom 0 strayRanges = true :=
  increasing_tables.2.2

theorem isStarter_iff {c : Char} : isStarter c = true ↔ Within c.toNat starterRanges :=
  inRanges_iff increasing_starterRanges

theorem isJoiner_iff {c : Char} : isJoiner c = true ↔ Within c.toNat joinerRanges :=
  inRanges_iff increasing_joinerRanges

theorem isStray_iff {c : Char} : isStray c = true ↔ Within c.toNat strayRanges :=
  inRanges_iff increasing_strayRanges

theorem sort_of_inRanges {table : List (Nat × Nat)} (htable : isSorted table = true) {c : Char}
    (hc : inRanges c.toNat table = true) :
    isStarter c = true ∨ isJoiner c = true ∨ isStray c = true := by
  simp only [isSorted, Bool.and_eq_true, List.isEmpty_iff] at htable
  rcases htable with ⟨⟨⟨hincreasing, hleft⟩, hothers⟩, hnone⟩
  rw [isStarter_iff, isJoiner_iff, isStray_iff]
  by_contra hsort
  simp only [not_or] at hsort
  rcases hsort with ⟨hstarter, hjoiner, hstray⟩
  have hin := (inRanges_iff hincreasing).mp hc
  have hmem := (within_minus hincreasing increasing_starterRanges).mpr ⟨hin, hstarter⟩
  have hmem := (within_minus hleft increasing_joinerRanges).mpr ⟨hmem, hjoiner⟩
  have hmem := (within_minus hothers increasing_strayRanges).mpr ⟨hmem, hstray⟩
  rw [hnone] at hmem
  exact not_within_nil _ hmem

theorem sort_of_isLetter {c : Char} (hc : isLetter c = true) :
    isStarter c = true ∨ isJoiner c = true ∨ isStray c = true :=
  sort_of_inRanges isSorted_tables.1 hc

theorem sort_of_isNumeral {c : Char} (hc : isNumeral c = true) :
    isStarter c = true ∨ isJoiner c = true ∨ isStray c = true :=
  sort_of_inRanges isSorted_tables.2 hc

theorem not_within_of_minus_eq {n : Nat} {table other : List (Nat × Nat)}
    (htable : increasingFrom 0 table = true) (hother : increasingFrom 0 other = true)
    (h : minus table other = table) (hn : Within n table) : ¬ Within n other := by
  rw [← h] at hn
  exact ((within_minus htable hother).mp hn).2

theorem not_isStarter_of_isJoiner {c : Char} (hc : isJoiner c = true) : isStarter c = false := by
  rw [← Bool.not_eq_true, isStarter_iff]
  exact not_within_of_minus_eq increasing_joinerRanges increasing_starterRanges
    minus_tables.1 (isJoiner_iff.mp hc)

theorem not_isStarter_of_isStray {c : Char} (hc : isStray c = true) : isStarter c = false := by
  rw [← Bool.not_eq_true, isStarter_iff]
  exact not_within_of_minus_eq increasing_strayRanges increasing_starterRanges
    minus_tables.2.1 (isStray_iff.mp hc)

theorem not_isJoiner_of_isStray {c : Char} (hc : isStray c = true) : isJoiner c = false := by
  rw [← Bool.not_eq_true, isJoiner_iff]
  exact not_within_of_minus_eq increasing_strayRanges increasing_joinerRanges
    minus_tables.2.2 (isStray_iff.mp hc)

/-!
# Plain names
-/

theorem ne_of_isStray {c d : Char} (hc : isStray c = true) (hd : isStray d = false) :
    c ≠ d := by
  rintro rfl
  rw [hc] at hd
  cases hd

/-- A character with which a plain name begins begins an identifier unless it is a joiner or a
stray. -/
theorem first_of_isPlainName {c : Char} (h : (isLetter c || c == '_' || c == '$') = true) :
    (isStarter c || c == '_' || c == '$') = !(isJoiner c && c != '_' || isStray c) := by
  by_cases hlow : c = '_'
  · subst hlow
    decide
  · by_cases hdollar : c = '$'
    · subst hdollar
      decide
    · have hletter : isLetter c = true := by
        simpa [hlow, hdollar] using h
      have hsort := sort_of_isLetter hletter
      have hjoiner : isJoiner c = true → isStarter c = false := not_isStarter_of_isJoiner
      have hstray : isStray c = true → isStarter c = false := not_isStarter_of_isStray
      grind

/-- A character with which a plain name goes on goes on with an identifier unless it is a
stray. -/
theorem further_of_isPlainName {d : Char}
    (h : (isLetter d || isNumeral d || d == '_' || d == '$') = true) :
    (isStarter d || isJoiner d || d == '_' || d == '$' || d == '\u200C' || d == '\u200D') =
      !isStray d := by
  cases hstray : isStray d with
  | true =>
      have hstarter := not_isStarter_of_isStray hstray
      have hjoiner := not_isJoiner_of_isStray hstray
      have hlow : d ≠ '_' := ne_of_isStray hstray (by decide)
      have hdollar : d ≠ '$' := ne_of_isStray hstray (by decide)
      have hzwnj : d ≠ '\u200C' := ne_of_isStray hstray (by decide)
      have hzwj : d ≠ '\u200D' := ne_of_isStray hstray (by decide)
      simp [hstarter, hjoiner, hlow, hdollar, hzwnj, hzwj]
  | false =>
      have hletter := sort_of_isLetter (c := d)
      have hnumeral := sort_of_isNumeral (c := d)
      grind

/-- A plain name is an identifier name unless it has a stray. -/
theorem isIdentifierName_of_isPlainName {t : Text} (h : isPlainName t = true) :
    isIdentifierName t = !hasStray t := by
  cases t with
  | nil =>
      cases h
  | cons c rest =>
      rw [isPlainName, Bool.and_eq_true, List.all_eq_true] at h
      rcases h with ⟨hfirst, hrest⟩
      have hall : (rest.all fun d =>
          isStarter d || isJoiner d || d == '_' || d == '$' || d == '\u200C' || d == '\u200D') =
            !rest.any isStray := by
        rw [Bool.eq_iff_iff, List.all_eq_true, Bool.not_eq_true', List.any_eq_false]
        constructor
        · intro hrest' d hd
          simpa [further_of_isPlainName (hrest d hd)] using hrest' d hd
        · intro hrest' d hd
          simpa [further_of_isPlainName (hrest d hd)] using hrest' d hd
      rw [isIdentifierName, hall, first_of_isPlainName hfirst, hasStray, List.head?_cons,
        Option.any_some, List.any_cons]
      cases isJoiner c && c != '_' <;> cases isStray c <;> rfl

end Text
end ComponentDecl
