import Mathlib
import ComponentDecl.JsonValue

/-!
# Numbers of JSON

A number is read as far as it goes, so that it is read whole only where nothing follows that
could still belong to it.
-/

namespace ComponentDecl
namespace JsonValue

/-!
# Numbers
-/

/-- One digit or more. -/
def IsDigits (t : Text) : Prop :=
  t ≠ [] ∧ ∀ c ∈ t, isDigit c = true

/-- The digits before the point, which begin with a zero only if it stands alone. -/
def IsWhole (t : Text) : Prop :=
  t = ['0'] ∨ IsDigits t ∧ t.head? ≠ some '0'

/-- Nothing, or a point with digits after it. -/
def IsFraction (t : Text) : Prop :=
  t = [] ∨ ∃ ds, IsDigits ds ∧ t = '.' :: ds

/-- Nothing, or an exponent. -/
def IsExponent (t : Text) : Prop :=
  t = [] ∨ ∃ e sign ds, (e = 'e' ∨ e = 'E') ∧ (sign = [] ∨ sign = ['+'] ∨ sign = ['-']) ∧
    IsDigits ds ∧ t = e :: sign ++ ds

/-- A number without its sign. -/
def IsMagnitude (t : Text) : Prop :=
  ∃ whole fraction exponent, IsWhole whole ∧ IsFraction fraction ∧ IsExponent exponent ∧
    t = whole ++ fraction ++ exponent

/-- A number. -/
def IsNumber (t : Text) : Prop :=
  IsMagnitude t ∨ ∃ u, IsMagnitude u ∧ t = '-' :: u

/-- No digit comes next. -/
def NoDigit (t : Text) : Prop :=
  ∀ c ∈ t.head?, isDigit c = false

/-- Nothing comes next that could still belong to a number. -/
def Stops (t : Text) : Prop :=
  ∀ c ∈ t.head?, isDigit c = false ∧ c ≠ '.' ∧ c ≠ 'e' ∧ c ≠ 'E'

theorem Stops.noDigit {t : Text} (h : Stops t) : NoDigit t :=
  fun c hc => (h c hc).1

theorem span_of_all {ds rest : Text} (hds : ∀ c ∈ ds, isDigit c = true) (h : NoDigit rest) :
    (ds ++ rest).span isDigit = (ds, rest) := by
  have hrest : rest.takeWhile isDigit = [] ∧ rest.dropWhile isDigit = rest := by
    cases rest with
    | nil => simp
    | cons c rest => simp [h c rfl]
  rw [List.span_eq_takeWhile_dropWhile, List.takeWhile_append_of_pos hds,
    List.dropWhile_append_of_pos hds, hrest.1, hrest.2, List.append_nil]

theorem digits?_append {ds rest : Text} (hds : IsDigits ds) (h : NoDigit rest) :
    digits? (ds ++ rest) = some (ds, rest) := by
  rw [digits?, span_of_all hds.2 h]
  cases ds with
  | nil => exact absurd rfl hds.1
  | cons d ds => rfl

theorem isDigits_of_digits? {t ds rest : Text} (h : digits? t = some (ds, rest)) :
    IsDigits ds ∧ t = ds ++ rest := by
  rw [digits?, List.span_eq_takeWhile_dropWhile] at h
  split at h
  · cases h
  · rename_i hne
    cases h
    exact ⟨⟨fun hnil => hne _ (by rw [hnil]), fun _ hc => List.mem_takeWhile_imp hc⟩,
      List.takeWhile_append_dropWhile.symm⟩

theorem wholePart?_append {whole rest : Text} (hwhole : IsWhole whole) (h : NoDigit rest) :
    wholePart? (whole ++ rest) = some (whole, rest) := by
  rcases hwhole with rfl | ⟨hdigits, hhead⟩
  · have hnone : rest.head?.any isDigit = false := by
      cases rest with
      | nil => rfl
      | cons c rest => exact h c rfl
    simp [wholePart?, hnone]
  · cases whole with
    | nil => exact absurd rfl hdigits.1
    | cons d ds =>
        have hd : d ≠ '0' := fun hd => hhead (by rw [hd]; rfl)
        rw [List.cons_append, wholePart?, ← List.cons_append, digits?_append hdigits h]
        intro t ht
        exact hd (List.cons.inj ht).1

theorem isWhole_of_wholePart? {t whole rest : Text} (h : wholePart? t = some (whole, rest)) :
    IsWhole whole ∧ t = whole ++ rest := by
  unfold wholePart? at h
  split at h
  · split at h
    · cases h
    · cases h
      exact ⟨Or.inl rfl, rfl⟩
  · rename_i hzero
    rcases isDigits_of_digits? h with ⟨hdigits, rfl⟩
    refine ⟨Or.inr ⟨hdigits, ?_⟩, rfl⟩
    intro hhead
    cases whole with
    | nil => cases hhead
    | cons d ds =>
        cases hhead
        exact hzero _ rfl

theorem fraction?_append {fraction rest : Text} (hfraction : IsFraction fraction)
    (h : NoDigit rest) (hpoint : rest.head? ≠ some '.') :
    fraction? (fraction ++ rest) = some (fraction, rest) := by
  rcases hfraction with rfl | ⟨ds, hds, rfl⟩
  · rw [List.nil_append, fraction?]
    rintro t rfl
    exact hpoint rfl
  · simp [fraction?, digits?_append hds h]

theorem isFraction_of_fraction? {t fraction rest : Text}
    (h : fraction? t = some (fraction, rest)) : IsFraction fraction ∧ t = fraction ++ rest := by
  unfold fraction? at h
  split at h
  · rcases Option.map_eq_some_iff.mp h with ⟨⟨ds, r⟩, hds, heq⟩
    cases heq
    rcases isDigits_of_digits? hds with ⟨hdigits, rfl⟩
    exact ⟨Or.inr ⟨ds, hdigits, rfl⟩, rfl⟩
  · cases h
    exact ⟨Or.inl rfl, rfl⟩

theorem exponentSign_append {sign ds rest : Text}
    (hsign : sign = [] ∨ sign = ['+'] ∨ sign = ['-']) (hds : IsDigits ds) :
    exponentSign (sign ++ (ds ++ rest)) = (sign, ds ++ rest) := by
  rcases hsign with rfl | rfl | rfl
  · cases ds with
    | nil => exact absurd rfl hds.1
    | cons d ds =>
        have hd := hds.2 d (List.mem_cons_self ..)
        rw [List.nil_append, List.cons_append, exponentSign]
        · rintro t ht
          cases ht
          cases hd
        · rintro t ht
          cases ht
          cases hd
  · rfl
  · rfl

theorem exponentSign_eq {t sign rest : Text} (h : exponentSign t = (sign, rest)) :
    (sign = [] ∨ sign = ['+'] ∨ sign = ['-']) ∧ t = sign ++ rest := by
  unfold exponentSign at h
  split at h
  · cases h
    exact ⟨Or.inr (Or.inl rfl), rfl⟩
  · cases h
    exact ⟨Or.inr (Or.inr rfl), rfl⟩
  · cases h
    exact ⟨Or.inl rfl, rfl⟩

theorem exponent?_append {exponent rest : Text} (hexponent : IsExponent exponent)
    (h : Stops rest) : exponent? (exponent ++ rest) = some (exponent, rest) := by
  rcases hexponent with rfl | ⟨e, sign, ds, he, hsign, hds, rfl⟩
  · cases rest with
    | nil => rfl
    | cons c rest =>
        have hc := h c rfl
        simp [exponent?, hc]
  · have hmark : (e == 'e' || e == 'E') = true := by
      simpa using he
    rw [List.append_assoc, List.cons_append, exponent?, if_pos hmark,
      exponentSign_append hsign hds]
    simp [digits?_append hds h.noDigit]

theorem isExponent_of_exponent? {t exponent rest : Text}
    (h : exponent? t = some (exponent, rest)) : IsExponent exponent ∧ t = exponent ++ rest := by
  unfold exponent? at h
  split at h
  · rename_i c t
    split at h
    · rename_i hmark
      rcases hsign : exponentSign t with ⟨sign, u⟩
      rw [hsign] at h
      rcases Option.map_eq_some_iff.mp h with ⟨⟨ds, r⟩, hds, heq⟩
      cases heq
      rcases isDigits_of_digits? hds with ⟨hdigits, rfl⟩
      rcases exponentSign_eq hsign with ⟨hform, rfl⟩
      exact ⟨Or.inr ⟨c, sign, ds, by simpa using hmark, hform, hdigits, rfl⟩, by simp⟩
    · cases h
      exact ⟨Or.inl rfl, rfl⟩
  · cases h
    exact ⟨Or.inl rfl, rfl⟩

theorem noDigit_exponent_append {exponent rest : Text} (hexponent : IsExponent exponent)
    (h : Stops rest) :
    NoDigit (exponent ++ rest) ∧ (exponent ++ rest).head? ≠ some '.' := by
  rcases hexponent with rfl | ⟨e, sign, ds, he, -, -, rfl⟩
  · exact ⟨h.noDigit, fun hpoint => (h '.' hpoint).2.1 rfl⟩
  · rcases he with rfl | rfl
    · simp [NoDigit, isDigit]
    · simp [NoDigit, isDigit]

theorem noDigit_fraction_append {fraction rest : Text} (hfraction : IsFraction fraction)
    (h : NoDigit rest) : NoDigit (fraction ++ rest) := by
  rcases hfraction with rfl | ⟨ds, -, rfl⟩
  · exact h
  · simp [NoDigit, isDigit]

theorem magnitude?_append {t rest : Text} (ht : IsMagnitude t) (h : Stops rest) :
    magnitude? (t ++ rest) = some (t, rest) := by
  rcases ht with ⟨whole, fraction, exponent, hwhole, hfraction, hexponent, rfl⟩
  rcases noDigit_exponent_append hexponent h with ⟨hdigit, hpoint⟩
  have hwholePart := wholePart?_append hwhole (noDigit_fraction_append hfraction hdigit)
  have hfractionPart := fraction?_append hfraction hdigit hpoint
  simp only [magnitude?, List.append_assoc, hwholePart, hfractionPart,
    exponent?_append hexponent h, Option.bind_eq_bind, Option.bind_some, Option.pure_def]

theorem isMagnitude_of_magnitude? {t u rest : Text} (h : magnitude? t = some (u, rest)) :
    IsMagnitude u ∧ t = u ++ rest := by
  simp only [magnitude?, Option.bind_eq_bind, Option.bind_eq_some_iff, Option.pure_def] at h
  rcases h with ⟨⟨whole, r⟩, h1, ⟨fraction, s⟩, h2, ⟨exponent, q⟩, h3, heq⟩
  cases heq
  rcases isWhole_of_wholePart? h1 with ⟨hwhole, rfl⟩
  rcases isFraction_of_fraction? h2 with ⟨hfraction, rfl⟩
  rcases isExponent_of_exponent? h3 with ⟨hexponent, rfl⟩
  exact ⟨⟨_, _, _, hwhole, hfraction, hexponent, rfl⟩, by simp⟩

theorem IsMagnitude.exists_digit {t : Text} (h : IsMagnitude t) :
    ∃ d u, t = d :: u ∧ isDigit d = true := by
  rcases h with ⟨whole, fraction, exponent, hwhole, -, -, rfl⟩
  rcases hwhole with rfl | ⟨⟨hne, hdigits⟩, -⟩
  · exact ⟨'0', _, rfl, rfl⟩
  · cases whole with
    | nil => exact absurd rfl hne
    | cons d ds => exact ⟨d, _, rfl, hdigits d (List.mem_cons_self ..)⟩

theorem IsNumber.exists_head {t : Text} (h : IsNumber t) :
    ∃ d u, t = d :: u ∧ (isDigit d = true ∨ d = '-') := by
  rcases h with h | ⟨u, -, rfl⟩
  · rcases h.exists_digit with ⟨d, u, rfl, hd⟩
    exact ⟨d, u, rfl, Or.inl hd⟩
  · exact ⟨'-', u, rfl, Or.inr rfl⟩

/-- A mark that no number begins with. -/
theorem ne_of_isDigit {a d : Char} (hd : isDigit d = true ∨ d = '-')
    (ha : isDigit a = false ∧ a ≠ '-') : d ≠ a := by
  rintro rfl
  rcases hd with hd | hd
  · rw [ha.1] at hd
    cases hd
  · exact ha.2 hd

theorem isSpace_of_isDigit {d : Char} (hd : isDigit d = true ∨ d = '-') : isSpace d = false := by
  simp only [isSpace, Bool.or_eq_false_iff, beq_eq_false_iff_ne]
  exact ⟨⟨⟨ne_of_isDigit hd (by decide), ne_of_isDigit hd (by decide)⟩,
    ne_of_isDigit hd (by decide)⟩, ne_of_isDigit hd (by decide)⟩

theorem number?_append {t rest : Text} (ht : IsNumber t) (h : Stops rest) :
    number? (t ++ rest) = some (t, rest) := by
  rcases ht with ht | ⟨u, hu, rfl⟩
  · rcases ht.exists_digit with ⟨d, u, rfl, hd⟩
    rw [List.cons_append, number?, ← List.cons_append, magnitude?_append ht h]
    rintro r hr
    cases hr
    cases hd
  · simp [number?, magnitude?_append hu h]

theorem isNumber_of_number? {t n rest : Text} (h : number? t = some (n, rest)) :
    IsNumber n ∧ t = n ++ rest := by
  unfold number? at h
  split at h
  · rcases Option.map_eq_some_iff.mp h with ⟨⟨u, r⟩, hu, heq⟩
    cases heq
    rcases isMagnitude_of_magnitude? hu with ⟨hmagnitude, rfl⟩
    exact ⟨Or.inr ⟨u, hmagnitude, rfl⟩, rfl⟩
  · rcases isMagnitude_of_magnitude? h with ⟨hn, rfl⟩
    exact ⟨Or.inl hn, rfl⟩

end JsonValue
end ComponentDecl
