import ComponentDecl.Proofs.Json.Number
import ComponentDecl.Proofs.Json.String

/-!
# The grammar of JSON

What texts spell which values, by the rules of the grammar: white space may stand around
values and marks, and strings may be written in several ways.  The reader of JSON texts reads
every spelling back, and reads nothing else.
-/

namespace ComponentDecl
namespace JsonValue

/-!
# White space
-/

/-- White space and nothing else. -/
def IsBlank (t : Text) : Prop :=
  ∀ c ∈ t, isSpace c = true

theorem isBlank_nil : IsBlank [] := by
  simp [IsBlank]

theorem skip_append {b : Text} (hb : IsBlank b) (t : Text) : skip (b ++ t) = skip t :=
  List.dropWhile_append_of_pos hb

theorem skip_cons {c : Char} (hc : isSpace c = false) (t : Text) : skip (c :: t) = c :: t := by
  simp [skip, hc]

theorem exists_skip (t : Text) : ∃ b, IsBlank b ∧ t = b ++ skip t :=
  ⟨t.takeWhile isSpace, fun _ hc => List.mem_takeWhile_imp hc,
    List.takeWhile_append_dropWhile.symm⟩

theorem skip_eq_nil {t : Text} : skip t = [] ↔ IsBlank t :=
  List.dropWhile_eq_nil_iff

/-!
# The grammar
-/

mutual

/-- The spellings of a value. -/
inductive Spells : JsonValue → Text → Prop where
  | null : Spells .null "null".toList
  | isTrue : Spells (.bool true) "true".toList
  | isFalse : Spells (.bool false) "false".toList
  | number {t : Text} (h : IsNumber t) : Spells (.number t) t
  | string {ps : List Piece} {t : Text} (h : Body ps t) :
      Spells (.string ps) ('"' :: t ++ ['"'])
  | emptyArray {b : Text} (hb : IsBlank b) : Spells (.array []) ('[' :: b ++ [']'])
  | array {vs : List JsonValue} {t : Text} (h : SpellsElements vs t) :
      Spells (.array vs) ('[' :: t ++ [']'])
  | emptyObject {b : Text} (hb : IsBlank b) : Spells (.object []) ('{' :: b ++ ['}'])
  | object {ms : List (List Piece × JsonValue)} {t : Text} (h : SpellsMembers ms t) :
      Spells (.object ms) ('{' :: t ++ ['}'])

/-- The spellings of a value with white space around it. -/
inductive SpellsSpaced : JsonValue → Text → Prop where
  | intro {v : JsonValue} {b t b' : Text} (hb : IsBlank b) (h : Spells v t) (hb' : IsBlank b') :
      SpellsSpaced v (b ++ t ++ b')

/-- The spellings of one value or more, with commas between them. -/
inductive SpellsElements : List JsonValue → Text → Prop where
  | last {v : JsonValue} {t : Text} (h : SpellsSpaced v t) : SpellsElements [v] t
  | cons {v : JsonValue} {vs : List JsonValue} {t u : Text} (h : SpellsSpaced v t)
      (hs : SpellsElements vs u) : SpellsElements (v :: vs) (t ++ ',' :: u)

/-- The spellings of a key with its value. -/
inductive SpellsMember : List Piece × JsonValue → Text → Prop where
  | intro {key : List Piece} {v : JsonValue} {b k b' t : Text} (hb : IsBlank b)
      (hk : Body key k) (hb' : IsBlank b') (h : SpellsSpaced v t) :
      SpellsMember (key, v) (b ++ '"' :: (k ++ '"' :: (b' ++ ':' :: t)))

/-- The spellings of one key or more with their values, with commas between them. -/
inductive SpellsMembers : List (List Piece × JsonValue) → Text → Prop where
  | last {m : List Piece × JsonValue} {t : Text} (h : SpellsMember m t) : SpellsMembers [m] t
  | cons {m : List Piece × JsonValue} {ms : List (List Piece × JsonValue)} {t u : Text}
      (h : SpellsMember m t) (hs : SpellsMembers ms u) : SpellsMembers (m :: ms) (t ++ ',' :: u)

end

theorem SpellsElements.exists_spaced {vs : List JsonValue} {t : Text}
    (h : SpellsElements vs t) : ∀ v ∈ vs, ∃ u, SpellsSpaced v u := by
  induction vs generalizing t with
  | nil => simp
  | cons w vs ih =>
      intro v hv
      cases h with
      | last hw =>
          rw [List.mem_singleton] at hv
          exact ⟨_, hv ▸ hw⟩
      | cons hw hvs =>
          rcases List.mem_cons.mp hv with rfl | hv
          · exact ⟨_, hw⟩
          · exact ih hvs v hv

theorem SpellsMembers.exists_member {ms : List (List Piece × JsonValue)} {t : Text}
    (h : SpellsMembers ms t) : ∀ m ∈ ms, ∃ u, SpellsMember m u := by
  induction ms generalizing t with
  | nil => simp
  | cons n ms ih =>
      intro m hm
      cases h with
      | last hn =>
          rw [List.mem_singleton] at hm
          exact ⟨_, hm ▸ hn⟩
      | cons hn hms =>
          rcases List.mem_cons.mp hm with rfl | hm
          · exact ⟨_, hn⟩
          · exact ih hms m hm

theorem SpellsSpaced.exists_spaced {vs : List JsonValue} {t : Text}
    (h : SpellsSpaced (.array vs) t) : ∀ v ∈ vs, ∃ u, SpellsSpaced v u := by
  cases h with
  | intro _ h _ =>
      cases h with
      | emptyArray _ => simp
      | array hvs => exact hvs.exists_spaced

theorem SpellsSpaced.exists_member {ms : List (List Piece × JsonValue)} {t : Text}
    (h : SpellsSpaced (.object ms) t) : ∀ m ∈ ms, ∃ u, SpellsMember m u := by
  cases h with
  | intro _ h _ =>
      cases h with
      | emptyObject _ => simp
      | object hms => exact hms.exists_member

/-- A value begins with a mark that closes no array. -/
theorem Spells.exists_head {v : JsonValue} {t : Text} (h : Spells v t) :
    ∃ c u, t = c :: u ∧ isSpace c = false ∧ c ≠ ']' := by
  cases h with
  | number h =>
      rcases h.exists_head with ⟨d, u, rfl, hd⟩
      exact ⟨d, u, rfl, isSpace_of_isDigit hd, ne_of_isDigit hd (by decide)⟩
  | null => exact ⟨_, _, rfl, by decide⟩
  | isTrue => exact ⟨_, _, rfl, by decide⟩
  | isFalse => exact ⟨_, _, rfl, by decide⟩
  | string _ => exact ⟨_, _, rfl, by decide⟩
  | emptyArray _ => exact ⟨_, _, rfl, by decide⟩
  | array _ => exact ⟨_, _, rfl, by decide⟩
  | emptyObject _ => exact ⟨_, _, rfl, by decide⟩
  | object _ => exact ⟨_, _, rfl, by decide⟩

theorem SpellsSpaced.exists_head {v : JsonValue} {t : Text} (h : SpellsSpaced v t) :
    ∃ b c u, IsBlank b ∧ t = b ++ c :: u ∧ isSpace c = false ∧ c ≠ ']' := by
  cases h with
  | @intro _ b _ b' hb h _ =>
      rcases h.exists_head with ⟨c, u, rfl, hc⟩
      exact ⟨b, c, u ++ b', hb, by simp, hc⟩

theorem SpellsElements.exists_head {vs : List JsonValue} {t : Text} (h : SpellsElements vs t) :
    ∃ b c u, IsBlank b ∧ t = b ++ c :: u ∧ isSpace c = false ∧ c ≠ ']' := by
  cases h with
  | last h => exact h.exists_head
  | @cons _ _ _ w h _ =>
      rcases h.exists_head with ⟨b, c, u, hb, rfl, hc⟩
      exact ⟨b, c, u ++ ',' :: w, hb, by simp, hc⟩

theorem SpellsMembers.exists_head {ms : List (List Piece × JsonValue)} {t : Text}
    (h : SpellsMembers ms t) : ∃ b u, IsBlank b ∧ t = b ++ '"' :: u := by
  cases h with
  | last h =>
      cases h with
      | intro hb _ _ _ => exact ⟨_, _, hb, rfl⟩
  | @cons _ _ _ w h _ =>
      cases h with
      | intro hb _ _ _ => exact ⟨_, _, hb, by rw [List.append_assoc, List.cons_append]⟩

/-!
# Spellings are read back
-/

theorem value?_append {b : Text} (hb : IsBlank b) (n : Nat) (t : Text) :
    value? n (b ++ t) = value? n t := by
  cases n with
  | zero => rfl
  | succ n => rw [value?, value?, skip_append hb]

theorem elements?_append {b : Text} (hb : IsBlank b) (n : Nat) (t : Text) :
    elements? n (b ++ t) = elements? n t := by
  cases n with
  | zero => rfl
  | succ n => rw [elements?, elements?, value?_append hb]

theorem members?_append {b : Text} (hb : IsBlank b) (n : Nat) (t : Text) :
    members? n (b ++ t) = members? n t := by
  cases n with
  | zero => rfl
  | succ n => rw [members?, members?, skip_append hb]

theorem Stops.append {b t : Text} (hb : IsBlank b) (h : Stops t) : Stops (b ++ t) := by
  cases b with
  | nil => exact h
  | cons c b =>
      intro d hd
      cases hd
      have hspace := hb c (List.mem_cons_self ..)
      simp only [isSpace, Bool.or_eq_true, beq_iff_eq] at hspace
      rcases hspace with ((rfl | rfl) | rfl) | rfl <;> decide

theorem stops_nil : Stops [] := by
  simp [Stops]

/-- A mark that ends a value within an array or an object. -/
def IsEnd (c : Char) : Prop :=
  c = ',' ∨ c = ']' ∨ c = '}'

theorem IsEnd.isSpace {c : Char} (h : IsEnd c) : isSpace c = false := by
  rcases h with rfl | rfl | rfl <;> rfl

theorem IsEnd.stops {c : Char} (h : IsEnd c) (t : Text) : Stops (c :: t) := by
  rintro d hd
  cases hd
  rcases h with rfl | rfl | rfl <;> decide

theorem strip?_number {t w : Text} {a : Char} (ht : IsNumber t)
    (ha : isDigit a = false ∧ a ≠ '-') (rest : Text) :
    Text.strip? (a :: w) (t ++ rest) = none := by
  rcases ht.exists_head with ⟨d, u, rfl, hd⟩
  simp [Text.strip?, (ne_of_isDigit hd ha).symm]

theorem plain?_number {t : Text} (ht : IsNumber t) (rest : Text) :
    plain? (t ++ rest) = (number? (t ++ rest)).map fun (n, r) => (number n, r) := by
  have hnull : Text.strip? "null".toList (t ++ rest) = none := strip?_number ht (by decide) rest
  have htrue : Text.strip? "true".toList (t ++ rest) = none := strip?_number ht (by decide) rest
  have hfalse : Text.strip? "false".toList (t ++ rest) = none :=
    strip?_number ht (by decide) rest
  simp only [plain?, hnull, htrue, hfalse]

/-- What begins like a number is read as a number. -/
theorem value?_number {t : Text} (ht : IsNumber t) (n : Nat) (rest : Text) :
    value? (n + 1) (t ++ rest) = (number? (t ++ rest)).map fun (w, r) => (number w, r) := by
  rw [← plain?_number ht]
  rcases ht.exists_head with ⟨d, u, rfl, hd⟩
  rw [List.cons_append, value?, skip_cons (isSpace_of_isDigit hd)]
  split
  · rename_i heq
    exact absurd (List.cons.inj heq).1 (ne_of_isDigit hd (by decide))
  · rename_i heq
    exact absurd (List.cons.inj heq).1 (ne_of_isDigit hd (by decide))
  · rename_i heq
    exact absurd (List.cons.inj heq).1 (ne_of_isDigit hd (by decide))
  · rfl

/-- What the reader gives back with `n` steps left.  A character costs two steps at most: an
array takes one for itself and one for its first element. -/
structure Complete (n : Nat) : Prop where
  value : ∀ {v : JsonValue} {t : Text} (rest : Text), Spells v t → 2 * t.length < n →
    (Stops rest ∨ ∀ w, v ≠ number w) → value? n (t ++ rest) = some (v, rest)
  elements : ∀ {vs : List JsonValue} {t : Text} (rest : Text), SpellsElements vs t →
    2 * t.length + 1 < n → elements? n (t ++ ']' :: rest) = some (vs, rest)
  members : ∀ {ms : List (List Piece × JsonValue)} {t : Text} (rest : Text), SpellsMembers ms t →
    2 * t.length + 1 < n → members? n (t ++ '}' :: rest) = some (ms, rest)

variable {n : Nat}

theorem Complete.spaced (h : Complete n) {v : JsonValue} {t : Text} {c : Char} (rest : Text)
    (ht : SpellsSpaced v t) (hn : 2 * t.length < n) (hc : IsEnd c) :
    ∃ r, value? n (t ++ c :: rest) = some (v, r) ∧ skip r = c :: rest := by
  cases ht with
  | @intro _ b u b' hb hu hb' =>
      simp only [List.length_append] at hn
      have hstops : Stops (b' ++ c :: rest) := (hc.stops rest).append hb'
      refine ⟨b' ++ c :: rest, ?_, ?_⟩
      · rw [List.append_assoc, List.append_assoc, value?_append hb]
        exact h.value _ hu (by omega) (Or.inl hstops)
      · rw [skip_append hb', skip_cons hc.isSpace]

theorem Complete.value_succ (h : Complete n) {v : JsonValue} {t : Text} (rest : Text)
    (ht : Spells v t) (hn : 2 * t.length < n + 1) (hrest : Stops rest ∨ ∀ w, v ≠ number w) :
    value? (n + 1) (t ++ rest) = some (v, rest) := by
  cases ht with
  | null => rfl
  | isTrue => rfl
  | isFalse => rfl
  | number ht =>
      have hstops : Stops rest := hrest.resolve_right fun hne => hne _ rfl
      rw [value?_number ht, number?_append ht hstops]
      rfl
  | string hb =>
      simp [value?, skip_cons (c := '"') rfl, pieces?_of_body hb]
  | emptyArray hb =>
      simp [value?, skip_cons (c := '[') rfl, skip_cons (c := ']') rfl, skip_append hb]
  | array hvs =>
      rcases hvs.exists_head with ⟨b, c, u, hb, rfl, hc, hclose⟩
      simp only [List.length_append, List.length_cons, List.length_nil] at hn
      have hread := h.elements rest hvs (by simp; omega)
      rw [List.append_assoc, elements?_append hb] at hread
      simp only [List.cons_append] at hread
      simp [value?, skip_cons (c := '[') rfl, skip_append hb, skip_cons hc, hclose, hread]
  | emptyObject hb =>
      simp [value?, skip_cons (c := '{') rfl, skip_cons (c := '}') rfl, skip_append hb]
  | object hms =>
      rcases hms.exists_head with ⟨b, u, hb, rfl⟩
      simp only [List.length_append, List.length_cons, List.length_nil] at hn
      have hread := h.members rest hms (by simp; omega)
      rw [List.append_assoc, members?_append hb] at hread
      simp only [List.cons_append] at hread
      simp [value?, skip_cons (c := '{') rfl, skip_cons (c := '"') rfl, skip_append hb, hread]

theorem Complete.elements_succ (h : Complete n) {vs : List JsonValue} {t : Text} (rest : Text)
    (ht : SpellsElements vs t) (hn : 2 * t.length + 1 < n + 1) :
    elements? (n + 1) (t ++ ']' :: rest) = some (vs, rest) := by
  cases ht with
  | last hv =>
      rcases h.spaced rest hv (by omega) (Or.inr (Or.inl rfl)) with ⟨r, hr, hskip⟩
      simp [elements?, hr, hskip]
  | @cons _ _ t u hv hvs =>
      simp only [List.length_append, List.length_cons] at hn
      rcases h.spaced (u ++ ']' :: rest) hv (by omega) (Or.inl rfl) with ⟨r, hr, hskip⟩
      simp [elements?, hr, hskip, h.elements rest hvs (by omega)]

theorem Complete.members_succ (h : Complete n) {ms : List (List Piece × JsonValue)} {t : Text}
    (rest : Text) (ht : SpellsMembers ms t) (hn : 2 * t.length + 1 < n + 1) :
    members? (n + 1) (t ++ '}' :: rest) = some (ms, rest) := by
  cases ht with
  | last hm =>
      cases hm with
      | @intro _ _ b k b' t hb hk hb' hv =>
          simp only [List.length_append, List.length_cons] at hn
          rcases h.spaced rest hv (by omega) (Or.inr (Or.inr rfl)) with ⟨r, hr, hskip⟩
          simp [members?, skip_append hb, skip_append hb', skip_cons, isSpace,
            pieces?_of_body hk, hr, hskip]
  | @cons _ _ _ u hm hms =>
      cases hm with
      | @intro _ _ b k b' t hb hk hb' hv =>
          simp only [List.length_append, List.length_cons] at hn
          rcases h.spaced (u ++ '}' :: rest) hv (by omega) (Or.inl rfl) with
            ⟨r, hr, hskip⟩
          simp [members?, skip_append hb, skip_append hb', skip_cons, isSpace,
            pieces?_of_body hk, hr, hskip, h.members rest hms (by omega)]

/-- The induction is on the steps that are left, as the reader takes them. -/
theorem complete : ∀ n, Complete n
  | 0 => ⟨by omega, by omega, by omega⟩
  | n + 1 =>
      have h := complete n
      ⟨h.value_succ, h.elements_succ, h.members_succ⟩

/-!
# Nothing else is read
-/

theorem spells_of_plain? {t rest : Text} {v : JsonValue} (h : plain? t = some (v, rest)) :
    ∃ u, Spells v u ∧ t = u ++ rest := by
  unfold plain? at h
  split at h
  · cases h
    exact ⟨_, .null, Text.strip?_eq_some.mp (by assumption)⟩
  · cases h
    exact ⟨_, .isTrue, Text.strip?_eq_some.mp (by assumption)⟩
  · cases h
    exact ⟨_, .isFalse, Text.strip?_eq_some.mp (by assumption)⟩
  · rcases Option.map_eq_some_iff.mp h with ⟨⟨w, r⟩, hw, heq⟩
    cases heq
    rcases isNumber_of_number? hw with ⟨hnumber, ht⟩
    exact ⟨w, .number hnumber, ht⟩

/-- What the reader gives back is spelled by what it has read. -/
structure Sound (n : Nat) : Prop where
  value : ∀ {t rest : Text} {v : JsonValue}, value? n t = some (v, rest) →
    ∃ b u, IsBlank b ∧ Spells v u ∧ t = b ++ u ++ rest
  elements : ∀ {t rest : Text} {vs : List JsonValue}, elements? n t = some (vs, rest) →
    ∃ u, SpellsElements vs u ∧ t = u ++ ']' :: rest
  members : ∀ {t rest : Text} {ms : List (List Piece × JsonValue)},
    members? n t = some (ms, rest) → ∃ u, SpellsMembers ms u ∧ t = u ++ '}' :: rest

theorem eq_append_of_skip {t r : Text} {c : Char} (h : skip t = c :: r) :
    ∃ b, IsBlank b ∧ t = b ++ c :: r := by
  rw [← h]
  exact exists_skip t

theorem Sound.value_succ (h : Sound n) {t rest : Text} {v : JsonValue}
    (hv : value? (n + 1) t = some (v, rest)) :
    ∃ b u, IsBlank b ∧ Spells v u ∧ t = b ++ u ++ rest := by
  rcases exists_skip t with ⟨b, hb, ht⟩
  suffices hskip : ∃ u, Spells v u ∧ skip t = u ++ rest by
    rcases hskip with ⟨u, hu, heq⟩
    exact ⟨b, u, hb, hu, by rw [List.append_assoc, ← heq, ← ht]⟩
  rw [value?] at hv
  split at hv
  · rename_i r heq
    rcases Option.map_eq_some_iff.mp hv with ⟨⟨ps, q⟩, hps, hout⟩
    cases hout
    rcases body_of_pieces? hps with ⟨k, hk, rfl⟩
    exact ⟨_, .string hk, by simp [heq]⟩
  · rename_i r heq
    split at hv
    · rename_i q hclose
      cases hv
      rcases eq_append_of_skip hclose with ⟨b', hb', rfl⟩
      exact ⟨_, .emptyArray hb', by simp [heq]⟩
    · rcases Option.map_eq_some_iff.mp hv with ⟨⟨vs, q⟩, hvs, hout⟩
      cases hout
      rcases exists_skip r with ⟨b', hb', hr⟩
      rw [← elements?_append hb', ← hr] at hvs
      rcases h.elements hvs with ⟨u, hu, rfl⟩
      exact ⟨_, .array hu, by simp [heq]⟩
  · rename_i r heq
    split at hv
    · rename_i q hclose
      cases hv
      rcases eq_append_of_skip hclose with ⟨b', hb', rfl⟩
      exact ⟨_, .emptyObject hb', by simp [heq]⟩
    · rcases Option.map_eq_some_iff.mp hv with ⟨⟨ms, q⟩, hms, hout⟩
      cases hout
      rcases exists_skip r with ⟨b', hb', hr⟩
      rw [← members?_append hb', ← hr] at hms
      rcases h.members hms with ⟨u, hu, rfl⟩
      exact ⟨_, .object hu, by simp [heq]⟩
  · exact spells_of_plain? hv

theorem Sound.spaced (h : Sound n) {t r rest : Text} {c : Char} {v : JsonValue}
    (hv : value? n t = some (v, r)) (hr : skip r = c :: rest) :
    ∃ u, SpellsSpaced v u ∧ t = u ++ c :: rest := by
  rcases h.value hv with ⟨b, u, hb, hu, rfl⟩
  rcases eq_append_of_skip hr with ⟨b', hb', rfl⟩
  exact ⟨b ++ u ++ b', ⟨hb, hu, hb'⟩, by simp⟩

theorem Sound.elements_succ (h : Sound n) {t rest : Text} {vs : List JsonValue}
    (hvs : elements? (n + 1) t = some (vs, rest)) :
    ∃ u, SpellsElements vs u ∧ t = u ++ ']' :: rest := by
  rw [elements?] at hvs
  simp only [Option.bind_eq_bind, Option.bind_eq_some_iff] at hvs
  rcases hvs with ⟨⟨v, r⟩, hv, hvs⟩
  split at hvs
  · rename_i q hskip
    cases hvs
    rcases h.spaced hv hskip with ⟨u, hu, rfl⟩
    exact ⟨u, .last hu, rfl⟩
  · rename_i q hskip
    simp only [Option.bind_eq_some_iff] at hvs
    rcases hvs with ⟨⟨ws, p⟩, hws, hout⟩
    cases hout
    rcases h.spaced hv hskip with ⟨u, hu, rfl⟩
    rcases h.elements hws with ⟨w, hw, rfl⟩
    exact ⟨_, .cons hu hw, by simp⟩
  · cases hvs

theorem Sound.members_succ (h : Sound n) {t rest : Text} {ms : List (List Piece × JsonValue)}
    (hms : members? (n + 1) t = some (ms, rest)) :
    ∃ u, SpellsMembers ms u ∧ t = u ++ '}' :: rest := by
  rw [members?] at hms
  split at hms
  · rename_i r hkey
    simp only [Option.bind_eq_bind, Option.bind_eq_some_iff] at hms
    rcases hms with ⟨⟨key, r'⟩, hpieces, hms⟩
    rcases eq_append_of_skip hkey with ⟨b, hb, rfl⟩
    rcases body_of_pieces? hpieces with ⟨k, hk, rfl⟩
    split at hms
    · rename_i q hcolon
      simp only [Option.bind_eq_some_iff] at hms
      rcases hms with ⟨⟨v, q'⟩, hv, hms⟩
      rcases eq_append_of_skip hcolon with ⟨b', hb', hr'⟩
      dsimp only at hr'
      subst hr'
      split at hms
      · rename_i p hskip
        cases hms
        rcases h.spaced hv hskip with ⟨u, hu, rfl⟩
        exact ⟨_, .last (.intro hb hk hb' hu), by simp⟩
      · rename_i p hskip
        simp only [Option.bind_eq_some_iff] at hms
        rcases hms with ⟨⟨ns, p'⟩, hns, hout⟩
        cases hout
        rcases h.spaced hv hskip with ⟨u, hu, rfl⟩
        rcases h.members hns with ⟨w, hw, rfl⟩
        exact ⟨_, .cons (.intro hb hk hb' hu) hw, by simp⟩
      · cases hms
    · cases hms
  · cases hms

theorem sound : ∀ n, Sound n
  | 0 => ⟨nofun, nofun, nofun⟩
  | n + 1 =>
      have h := sound n
      ⟨h.value_succ, h.elements_succ, h.members_succ⟩

/-!
# Whole texts
-/

theorem IsBlank.stops {b : Text} (hb : IsBlank b) : Stops b := by
  rw [← List.append_nil b]
  exact stops_nil.append hb

/-- After a value the text must end.  A number is read only if it does not go on. -/
theorem read?_append {b u rest : Text} {v : JsonValue} (hb : IsBlank b) (hu : Spells v u)
    (hrest : Stops rest ∨ ∀ w, v ≠ number w) :
    read? (b ++ u ++ rest) = if (skip rest).isEmpty then some v else none := by
  have hlength : 2 * u.length < 2 * (b ++ u ++ rest).length + 2 := by
    simp only [List.length_append]
    omega
  have hvalue := (complete _).value _ hu hlength hrest
  rw [← value?_append hb, ← List.append_assoc] at hvalue
  rw [read?, hvalue]
  rfl

/-- Exactly the spellings of a value are read as it, with white space around them. -/
theorem read?_eq_some {t : Text} {v : JsonValue} : read? t = some v ↔ SpellsSpaced v t := by
  constructor
  · intro h
    simp only [read?, Option.bind_eq_bind, Option.bind_eq_some_iff] at h
    rcases h with ⟨⟨w, rest⟩, hw, h⟩
    rw [Option.ite_none_right_eq_some] at h
    rcases h with ⟨hempty, heq⟩
    cases heq
    rcases (sound _).value hw with ⟨b, u, hb, hu, rfl⟩
    exact ⟨hb, hu, skip_eq_nil.mp (List.isEmpty_iff.mp hempty)⟩
  · intro h
    cases h with
    | intro hb hu hb' =>
        rw [read?_append hb hu (Or.inl hb'.stops), skip_eq_nil.mpr hb']
        rfl

/-- A text is a spelling of one value at most. -/
theorem SpellsSpaced.unique {t : Text} {v w : JsonValue} (hv : SpellsSpaced v t)
    (hw : SpellsSpaced w t) : v = w := by
  have hread := read?_eq_some.mpr hv
  rw [read?_eq_some.mpr hw] at hread
  exact (Option.some.inj hread).symm

/-- If something other than white space follows a value, the text spells no value, or it is
a number that goes on. -/
theorem SpellsSpaced.number_of_trailing {b u rest : Text} {v w : JsonValue} (hb : IsBlank b)
    (hu : Spells v u) (hrest : ¬ IsBlank rest) (hw : SpellsSpaced w (b ++ u ++ rest)) :
    ∃ n, w = number n := by
  have hread := read?_eq_some.mpr hw
  by_cases hv : ∃ n, v = number n
  · rcases hv with ⟨n, rfl⟩
    cases hu with
    | number hn =>
        rw [read?, List.append_assoc, value?_append hb, value?_number hn] at hread
        simp only [Option.bind_eq_bind, Option.bind_eq_some_iff, Option.map_eq_some_iff,
          Option.ite_none_right_eq_some] at hread
        rcases hread with ⟨_, ⟨⟨n, r⟩, -, rfl⟩, -, heq⟩
        exact ⟨n, (Option.some.inj heq).symm⟩
  · rw [read?_append hb hu (Or.inr (not_exists.mp hv)), if_neg] at hread
    · cases hread
    · intro hempty
      exact hrest (skip_eq_nil.mp (List.isEmpty_iff.mp hempty))

end JsonValue
end ComponentDecl
