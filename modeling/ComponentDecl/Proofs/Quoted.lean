import ComponentDecl.Proofs.Lexeme
import Mathlib.Data.List.Basic

/-!
# String literals

A string literal is delimited by itself: what the scanner takes at the head of a text does
not depend on what follows.  Without comments inside, it is one literal also to a reader
that knows quotes and backslashes only.
-/

namespace ComponentDecl
namespace Tree

theorem textAll_append (ts us : List Tree) :
    textAll (ts ++ us) = textAll ts ++ textAll us := by
  induction ts with
  | nil =>
      rfl
  | cons t rest ih =>
      simp [textAll, ih]

end Tree

namespace Lexeme

@[simp] theorem textAll_gap (t : Text) : Tree.textAll (gap t) = t := by
  unfold gap
  cases t <;> simp [Tree.textAll, Tree.text]

/-- A reader makes `a` of the text `e` in front of whatever starts as `rest` does. -/
def TakenBefore {α : Type} (read : Text → Option (α × Text)) (e : Text) (a : α)
    (rest : Text) : Prop :=
  ∀ x rest', rest = x :: rest' → ∀ r, read (e ++ x :: r) = some (a, x :: r)

theorem TakenBefore.append {α : Type} {read : Text → Option (α × Text)} {e : Text} {a : α}
    {u rest : Text} (h : TakenBefore read e a (u ++ rest)) (hu : u ≠ []) (r : Text) :
    read (e ++ (u ++ r)) = some (a, u ++ r) := by
  rcases List.exists_cons_of_ne_nil hu with ⟨x, u', rfl⟩
  exact h x (u' ++ rest) rfl (u' ++ r)

/-!
# Escapes
-/

/-- The characters of an escape behind the one that the backslash escapes. -/
def isEscapeTail (c : Char) : Bool :=
  isHex c || isOctal c || isLineEnd c || c == '{' || c == '}'

theorem span_isHex_append {ds : Text} (h : ∀ d ∈ ds, isHex d = true) (r : Text) :
    (ds ++ '}' :: r).span isHex = (ds, '}' :: r) := by
  rw [Text.span_eq_iff]
  refine ⟨rfl, h, ?_⟩
  intro c hc
  obtain rfl : '}' = c := Option.some.inj hc
  decide

theorem unicodeEscape?_spec {t e rest : Text} (h : unicodeEscape? t = some (e, rest)) :
    t = e ++ rest ∧ (∃ more, e = '\\' :: 'u' :: more ∧ ∀ d ∈ more, isEscapeTail d = true) ∧
      ∀ r, unicodeEscape? (e ++ r) = some (e, r) := by
  unfold unicodeEscape? at h
  split at h
  · rename_i tail
    split at h
    · rename_i d ds more hspan
      rcases Prod.mk.inj (Option.some.inj h) with ⟨rfl, rfl⟩
      rcases Text.span_eq_iff.mp hspan with ⟨htail, hds, _⟩
      refine ⟨by simp [htail], ⟨'{' :: (d :: ds) ++ ['}'], by simp, ?_⟩, ?_⟩
      · intro c hc
        simp only [List.cons_append, List.mem_cons, List.mem_append, List.not_mem_nil,
          or_false] at hc
        rcases hc with rfl | rfl | hc | rfl
        · decide
        · simp [isEscapeTail, hds c List.mem_cons_self]
        · simp [isEscapeTail, hds c (List.mem_cons_of_mem d hc)]
        · decide
      · intro r
        have hspan' := span_isHex_append hds r
        simp only [List.cons_append, List.nil_append, List.append_assoc] at hspan' ⊢
        simp only [unicodeEscape?, hspan', List.cons_append, List.nil_append]
    · cases h
  · rename_i a b c d tail hne
    split at h
    · rename_i hhex
      rcases Prod.mk.inj (Option.some.inj h) with ⟨rfl, rfl⟩
      have hhex' := hhex
      simp only [Bool.and_eq_true] at hhex'
      refine ⟨rfl, ⟨[a, b, c, d], rfl, by simp [isEscapeTail, hhex']⟩, ?_⟩
      intro r
      simp [unicodeEscape?, hhex']
    · cases h
  · cases h

theorem octalDigits_spec {c : Char} (hc : isOctal c = true) (t : Text) :
    ∃ ds rest, ((c :: t.take 2).takeWhile isOctal) = c :: ds ∧ t = ds ++ rest ∧
      (∀ d ∈ ds, isOctal d = true) ∧
      ∀ x rest', rest = x :: rest' → ∀ r,
        (c :: (ds ++ x :: r).take 2).takeWhile isOctal = c :: ds := by
  cases t with
  | nil =>
      refine ⟨[], [], by simp [hc], rfl, by simp, ?_⟩
      intro x rest' h
      cases h
  | cons a more =>
      by_cases ha : isOctal a = true
      · cases more with
        | nil =>
            refine ⟨[a], [], by simp [hc, ha], rfl, by simp [ha], ?_⟩
            intro x rest' h
            cases h
        | cons b more' =>
            by_cases hb : isOctal b = true
            · exact ⟨[a, b], more', by simp [hc, ha, hb], rfl, by simp [ha, hb],
                by simp [hc, ha, hb]⟩
            · refine ⟨[a], b :: more', by simp [hc, ha, hb], rfl, by simp [ha], ?_⟩
              rintro x rest' h r
              rcases List.cons.inj h with ⟨rfl, rfl⟩
              simp [hc, ha, hb]
      · refine ⟨[], a :: more, by simp [hc, ha], rfl, by simp, ?_⟩
        rintro x rest' h r
        rcases List.cons.inj h with ⟨rfl, rfl⟩
        simp [hc, ha]

/-- An escape is a backslash, the character it escapes and characters that end no string;
only the next character decides how far it reaches. -/
theorem escape?_spec {t e rest : Text} (h : escape? t = some (e, rest)) :
    t = e ++ rest ∧
      (∃ c more, e = '\\' :: c :: more ∧ ∀ d ∈ more, isEscapeTail d = true) ∧
      TakenBefore escape? e e rest := by
  unfold escape? at h
  split at h
  · rename_i a b tail
    split at h
    · rename_i hhex
      rcases Prod.mk.inj (Option.some.inj h) with ⟨rfl, rfl⟩
      have hhex' := hhex
      simp only [Bool.and_eq_true] at hhex'
      refine ⟨rfl, ⟨'x', [a, b], rfl, by simp [isEscapeTail, hhex']⟩, ?_⟩
      intro x rest' _ r
      simp [escape?, hhex']
    · cases h
  · cases h
  · rcases unicodeEscape?_spec h with ⟨ht, ⟨more, rfl, hmore⟩, hstable⟩
    refine ⟨ht, ⟨'u', more, rfl, hmore⟩, ?_⟩
    intro x rest' _ r
    exact hstable (x :: r)
  · rename_i c tail hx hx' hu
    have hcx : c ≠ 'x' := by
      rintro rfl
      exact hx' rfl
    split at h
    · rename_i hc
      rcases octalDigits_spec hc tail with ⟨ds, rest₀, hds, rfl, hoct, hstable⟩
      simp only [hds, List.length_cons, List.drop_succ_cons, List.drop_left] at h
      rcases Prod.mk.inj (Option.some.inj h) with ⟨rfl, rfl⟩
      refine ⟨rfl, ⟨c, ds, rfl, ?_⟩, ?_⟩
      · intro d hd
        simp [isEscapeTail, hoct d hd]
      · intro x rest' hrest r
        have hds' := hstable x rest' hrest r
        simp only [List.cons_append]
        unfold escape?
        simp [hcx, hc, hds']
    · rename_i hc
      split at h
      · rename_i d more
        split at h
        · rename_i hd
          rcases Prod.mk.inj (Option.some.inj h) with ⟨rfl, rfl⟩
          have hd' := hd
          simp only [Bool.and_eq_true] at hd'
          refine ⟨rfl, ⟨c, [d], rfl, by simp [isEscapeTail, hd'.2]⟩, ?_⟩
          intro x rest' _ r
          simp [escape?, hcx, hc, hd]
        · rename_i hd
          rcases Prod.mk.inj (Option.some.inj h) with ⟨rfl, rfl⟩
          refine ⟨rfl, ⟨c, [], rfl, by simp⟩, ?_⟩
          rintro x rest' hrest r
          rcases List.cons.inj hrest with ⟨rfl, rfl⟩
          simp [escape?, hcx, hc, hd]
      · rcases Prod.mk.inj (Option.some.inj h) with ⟨rfl, rfl⟩
        refine ⟨rfl, ⟨c, [], rfl, by simp⟩, ?_⟩
        intro x rest' hrest
        cases hrest
  · cases h

theorem escape?_ne_nil {t e t' : Text} (h : escape? t = some (e, t')) :
    t.head? = some '\\' ∧ e.head? = some '\\' := by
  rcases escape?_spec h with ⟨ht, ⟨c, more, rfl, _⟩, _⟩
  exact ⟨by rw [ht]; rfl, rfl⟩

theorem escape?_eq_none {t : Text} (h : t.head? ≠ some '\\') : escape? t = none := by
  cases he : escape? t with
  | none =>
      rfl
  | some m =>
      rcases m with ⟨e, rest⟩
      exact absurd (escape?_ne_nil he).1 h

/-!
# Comments inside strings
-/

theorem throughBlockEnd_append {t u rest : Text} (h : throughBlockEnd t = some (u, rest))
    (r : Text) : throughBlockEnd (u ++ r) = some (u, r) := by
  fun_induction throughBlockEnd t generalizing u with
  | case1 =>
      cases h
  | case2 tail =>
      rcases Prod.mk.inj (Option.some.inj h) with ⟨rfl, rfl⟩
      rfl
  | case3 c tail hne ih =>
      rcases Option.map_eq_some_iff.mp h with ⟨⟨v, rest'⟩, hv, heq⟩
      rcases Prod.mk.inj heq with ⟨rfl, rfl⟩
      rcases throughBlockEnd_spec hv with ⟨b, hu, _, htail⟩
      have hne' : ∀ more, c = '*' → v ++ r ≠ '/' :: more := by
        intro more hc hv'
        -- the text read starts with the same character whatever follows it
        cases v with
        | nil =>
            simp at hu
        | cons d v' =>
            rcases List.cons.inj hv' with ⟨rfl, _⟩
            exact hne (v' ++ rest') hc (by rw [htail]; rfl)
      rw [List.cons_append, throughBlockEnd, ih hv]
      · rfl
      · intro more hc hv'
        exact hne' more hc hv'

theorem comment?_spec {t c rest : Text} (h : comment? t = some (c, rest)) :
    t = c ++ rest ∧ c ≠ [] ∧ TakenBefore comment? c c rest := by
  unfold comment? at h
  split at h
  · rename_i tail
    cases hspan : tail.span fun c => !endsLineComment c with
    | mk line more =>
      rw [hspan] at h
      rcases Prod.mk.inj (Option.some.inj h) with ⟨rfl, rfl⟩
      rcases Text.span_eq_iff.mp hspan with ⟨htail, hline, hend⟩
      refine ⟨by simp [htail], by simp, ?_⟩
      rintro x rest' rfl r
      have hspan' : (line ++ x :: r).span (fun c => !endsLineComment c) = (line, x :: r) := by
        rw [Text.span_eq_iff]
        exact ⟨rfl, hline, hend⟩
      simp only [List.cons_append, comment?, hspan']
  · rcases Option.map_eq_some_iff.mp h with ⟨⟨v, rest'⟩, hv, heq⟩
    rcases Prod.mk.inj heq with ⟨rfl, rfl⟩
    rcases throughBlockEnd_spec hv with ⟨_, _, _, htail⟩
    refine ⟨by simp [htail], by simp, ?_⟩
    intro x rest'' _ r
    simp only [List.cons_append, comment?, throughBlockEnd_append hv (x :: r), Option.map_some]
  · cases h

theorem commentAhead?_false (t : Text) :
    commentAhead? false t =
      (comment? (t.span isGap).2).map fun c =>
        (gap (t.span isGap).1 ++ [.leaf none .comment c.1], c.2) := rfl

theorem commentAhead?_spec {t : Text} {trees : List Tree} {rest : Text}
    (h : commentAhead? false t = some (trees, rest)) :
    t = Tree.textAll trees ++ rest ∧ Tree.textAll trees ≠ [] ∧
      TakenBefore (commentAhead? false) (Tree.textAll trees) trees rest := by
  rw [commentAhead?_false] at h
  rcases Option.map_eq_some_iff.mp h with ⟨⟨c, rest'⟩, hc, heq⟩
  rcases Prod.mk.inj heq with ⟨rfl, rfl⟩
  rcases Text.span_spec isGap t with ⟨ht, hgap, hend⟩
  rcases comment?_spec hc with ⟨hrest, hne, hstable⟩
  have htext : Tree.textAll (gap (t.span isGap).1 ++ [.leaf none .comment c]) =
      (t.span isGap).1 ++ c := by
    simp [Tree.textAll_append, Tree.textAll, Tree.text]
  rw [htext]
  refine ⟨by rw [List.append_assoc, ← hrest]; exact ht, by simp [hne], ?_⟩
  intro x rest'' hx r
  have hspan : ((t.span isGap).1 ++ (c ++ x :: r)).span isGap =
      ((t.span isGap).1, c ++ x :: r) := by
    rw [Text.span_eq_iff]
    refine ⟨rfl, hgap, ?_⟩
    intro d hd
    apply hend
    cases c with
    | nil =>
        exact absurd rfl hne
    | cons e c' =>
        rw [hrest]
        exact hd
  rw [commentAhead?_false, List.append_assoc, hspan, hstable x rest'' hx r]
  rfl

theorem commentAhead?_head {t : Text} {m : List Tree × Text}
    (h : commentAhead? false t = some m) : t.head? ≠ some '\\' := by
  intro hhead
  rcases List.head?_eq_some_iff.mp hhead with ⟨tail, rfl⟩
  have hspan : ('\\' :: tail).span isGap = ([], '\\' :: tail) := by
    rw [Text.span_eq_iff]
    refine ⟨rfl, by simp, ?_⟩
    intro c hc
    obtain rfl : '\\' = c := Option.some.inj hc
    decide
  rw [commentAhead?_false, hspan] at h
  cases h

/-!
# Strings

The tail of a string is a row of plain stretches, escapes and comments, and at last the
closing quote.  One equation for each of them says when the scanner takes it.
-/

/-- Whether a character opens a string. -/
def isQuote (c : Char) : Bool :=
  c == '"' || c == '\''

theorem isQuote_iff {q : Char} : isQuote q = true ↔ q = '"' ∨ q = '\'' := by
  simp [isQuote]

/-- The characters of a plain stretch of a string. -/
def isPlain (q c : Char) : Bool :=
  !(c == q || c == '\\' || c == '\r' || c == '\n')

theorem stringTail_of_head {q : Char} {n : Nat} {t : Text}
    (ht : ∀ c ∈ t.head?, isPlain q c = false) :
    stringTail q (n + 1) t =
      match escape? t with
      | some (e, rest) =>
          (stringTail q n rest).map fun m => (.leaf none .escapeSequence e :: m.1, m.2)
      | none =>
          match commentAhead? false t with
          | some (trees, rest) => (stringTail q n rest).map fun m => (trees ++ m.1, m.2)
          | none =>
              match t.span isGap with
              | (space, c :: rest) =>
                  if c == q then some (gap space ++ [.token none [q]], rest) else none
              | _ => none := by
  have hspan : (t.span fun c => !(c == q || c == '\\' || c == '\r' || c == '\n')) = ([], t) :=
    Text.span_eq_iff.mpr ⟨rfl, by simp, ht⟩
  rw [stringTail, hspan]
  rfl

theorem stringTail_plain {q : Char} {n : Nat} {plain t : Text} (hne : plain ≠ [])
    (hplain : ∀ c ∈ plain, isPlain q c = true) (ht : ∀ c ∈ t.head?, isPlain q c = false) :
    stringTail q (n + 1) (plain ++ t) =
      (stringTail q n t).map fun m => (.leaf none .stringFragment plain :: m.1, m.2) := by
  have hspan : ((plain ++ t).span fun c => !(c == q || c == '\\' || c == '\r' || c == '\n')) =
      (plain, t) := Text.span_eq_iff.mpr ⟨rfl, hplain, ht⟩
  rw [stringTail, hspan]
  simp [hne]

theorem stringTail_escape {q : Char} {n : Nat} {t e t' : Text} (he : escape? t = some (e, t')) :
    stringTail q (n + 1) t =
      (stringTail q n t').map fun m => (.leaf none .escapeSequence e :: m.1, m.2) := by
  rw [stringTail_of_head, he]
  intro c hc
  obtain rfl : '\\' = c := Option.some.inj ((escape?_ne_nil he).1.symm.trans hc)
  simp [isPlain]

theorem stringTail_comment {q : Char} {n : Nat} {t t' : Text} {cs : List Tree}
    (ht : ∀ c ∈ t.head?, isPlain q c = false) (hc : commentAhead? false t = some (cs, t')) :
    stringTail q (n + 1) t = (stringTail q n t').map fun m => (cs ++ m.1, m.2) := by
  rw [stringTail_of_head ht, escape?_eq_none (commentAhead?_head hc), hc]

theorem stringTail_close {q : Char} (hq : isQuote q = true) {n : Nat} {space : Text}
    (hspace : ∀ c ∈ space, isGap c = true)
    (ht : ∀ c ∈ (space ++ [q]).head?, isPlain q c = false) (r : Text) :
    stringTail q (n + 1) (space ++ q :: r) = some (gap space ++ [.token none [q]], r) := by
  have hgap : isGap q = false := by
    rcases isQuote_iff.mp hq with rfl | rfl <;> decide
  have hspan : (space ++ q :: r).span isGap = (space, q :: r) := by
    rw [Text.span_eq_iff]
    refine ⟨rfl, hspace, ?_⟩
    intro c hc
    obtain rfl : q = c := Option.some.inj hc
    exact hgap
  have hnone : commentAhead? false (space ++ q :: r) = none := by
    rw [commentAhead?_false, hspan]
    rcases isQuote_iff.mp hq with rfl | rfl <;> rfl
  have hesc : escape? (space ++ q :: r) = none := by
    apply escape?_eq_none
    intro hhead
    -- neither white space nor a quote is a backslash
    cases space with
    | nil =>
        obtain rfl : q = '\\' := Option.some.inj hhead
        exact absurd hq (by decide)
    | cons c space =>
        obtain rfl : c = '\\' := Option.some.inj hhead
        exact absurd (hspace '\\' List.mem_cons_self) (by decide)
  rw [stringTail_of_head, hesc, hnone, hspan]
  · simp
  · cases space <;> exact ht

/-- The ways the tail of a string is scanned: the text, its pieces and what follows. -/
inductive StringTail (q : Char) : Text → List Tree → Text → Prop where
  | plain {plain t rest : Text} {trees : List Tree} (hne : plain ≠ [])
      (hplain : ∀ c ∈ plain, isPlain q c = true) (ht : ∀ c ∈ t.head?, isPlain q c = false)
      (htail : StringTail q t trees rest) :
      StringTail q (plain ++ t) (.leaf none .stringFragment plain :: trees) rest
  | escape {t e t' rest : Text} {trees : List Tree} (he : escape? t = some (e, t'))
      (htail : StringTail q t' trees rest) :
      StringTail q t (.leaf none .escapeSequence e :: trees) rest
  | comment {t t' rest : Text} {cs trees : List Tree}
      (ht : ∀ c ∈ t.head?, isPlain q c = false) (hc : commentAhead? false t = some (cs, t'))
      (htail : StringTail q t' trees rest) : StringTail q t (cs ++ trees) rest
  | close {space rest : Text} (hspace : ∀ c ∈ space, isGap c = true)
      (ht : ∀ c ∈ (space ++ [q]).head?, isPlain q c = false) :
      StringTail q (space ++ q :: rest) (gap space ++ [.token none [q]]) rest

theorem stringTail_eq_some {q : Char} {n : Nat} {t : Text} {trees : List Tree} {rest : Text}
    (h : stringTail q n t = some (trees, rest)) : StringTail q t trees rest := by
  induction n generalizing t trees with
  | zero =>
      cases h
  | succ n ih =>
      obtain ⟨plain, tail, rfl, hplain, ht⟩ :
          ∃ plain tail, t = plain ++ tail ∧ (∀ c ∈ plain, isPlain q c = true) ∧
            ∀ c ∈ tail.head?, isPlain q c = false :=
        ⟨_, _, Text.span_spec (isPlain q) t⟩
      by_cases hne : plain = []
      · subst hne
        rw [List.nil_append, stringTail_of_head ht] at h
        split at h
        · rename_i e t' he
          rcases Option.map_eq_some_iff.mp h with ⟨⟨more, r⟩, hm, heq⟩
          rcases Prod.mk.inj heq with ⟨rfl, rfl⟩
          exact .escape he (ih hm)
        · split at h
          · rename_i cs t' hc
            rcases Option.map_eq_some_iff.mp h with ⟨⟨more, r⟩, hm, heq⟩
            rcases Prod.mk.inj heq with ⟨rfl, rfl⟩
            exact .comment ht hc (ih hm)
          · split at h
            · rename_i space c rest' hspan
              split at h
              · rename_i hc
                rcases eq_of_beq hc with rfl
                rcases Prod.mk.inj (Option.some.inj h) with ⟨rfl, rfl⟩
                rcases Text.span_eq_iff.mp hspan with ⟨rfl, hspace, _⟩
                refine .close hspace ?_
                cases space <;> exact ht
              · cases h
            · cases h
      · rw [stringTail_plain hne hplain ht] at h
        rcases Option.map_eq_some_iff.mp h with ⟨⟨more, r⟩, hm, heq⟩
        rcases Prod.mk.inj heq with ⟨rfl, rfl⟩
        exact .plain hne hplain ht (ih hm)

theorem StringTail.text_eq {q : Char} {t : Text} {trees : List Tree} {rest : Text}
    (h : StringTail q t trees rest) : t = Tree.textAll trees ++ rest ∧ Tree.textAll trees ≠ [] := by
  induction h with
  | plain hne _ _ _ ih =>
      constructor
      · rw [ih.1]
        simp [Tree.textAll, Tree.text]
      · simp [Tree.textAll, Tree.text, hne]
  | escape he _ ih =>
      rcases escape?_spec he with ⟨ht, ⟨c, more, rfl, _⟩, _⟩
      constructor
      · rw [ht, ih.1]
        simp [Tree.textAll, Tree.text]
      · simp [Tree.textAll, Tree.text]
  | comment _ hc _ ih =>
      rcases commentAhead?_spec hc with ⟨ht, hne, _⟩
      rw [Tree.textAll_append]
      constructor
      · rw [ht, ih.1, List.append_assoc]
      · simp [hne]
  | close =>
      simp [Tree.textAll_append, Tree.textAll, Tree.text]

/-!
# Strings end where they end

The pieces of a string depend on the string alone, so two strings at the head of the same
text are the same string.
-/

theorem StringTail.stable {q : Char} (hq : isQuote q = true) {t : Text} {trees : List Tree}
    {rest : Text} (h : StringTail q t trees rest) (r : Text) {n : Nat}
    (hn : (Tree.textAll trees).length < n) :
    stringTail q n (Tree.textAll trees ++ r) = some (trees, r) := by
  induction h generalizing n with
  | plain hne hplain ht htail ih =>
      rename_i plain tail rest trees
      obtain ⟨n, rfl⟩ : ∃ m, n = m + 1 := Nat.exists_eq_add_one_of_ne_zero (by omega)
      rcases htail.text_eq with ⟨rfl, htrees⟩
      have hpos : 0 < plain.length := List.length_pos_iff.mpr hne
      simp only [Tree.textAll, Tree.text, List.length_append] at hn
      simp only [Tree.textAll, Tree.text, List.append_assoc]
      rw [stringTail_plain hne hplain, ih (by omega), Option.map_some]
      intro c hc
      apply ht
      rw [List.head?_append_of_ne_nil _ htrees] at hc ⊢
      exact hc
  | escape he htail ih =>
      rename_i t e t' rest trees
      obtain ⟨n, rfl⟩ : ∃ m, n = m + 1 := Nat.exists_eq_add_one_of_ne_zero (by omega)
      rcases htail.text_eq with ⟨rfl, htrees⟩
      rcases escape?_spec he with ⟨_, ⟨c, more, rfl, _⟩, htaken⟩
      simp only [Tree.textAll, Tree.text, List.length_append, List.length_cons] at hn
      rw [Tree.textAll, Tree.text, List.append_assoc, stringTail_escape (htaken.append htrees r),
        ih (by omega), Option.map_some]
  | comment ht hc htail ih =>
      rename_i t t' rest cs trees
      obtain ⟨n, rfl⟩ : ∃ m, n = m + 1 := Nat.exists_eq_add_one_of_ne_zero (by omega)
      rcases htail.text_eq with ⟨rfl, htrees⟩
      rcases commentAhead?_spec hc with ⟨ht', hcs, htaken⟩
      have hpos : 0 < (Tree.textAll cs).length := List.length_pos_iff.mpr hcs
      have hhead : (Tree.textAll cs ++ (Tree.textAll trees ++ r)).head? = t.head? := by
        rw [ht', List.head?_append_of_ne_nil _ hcs, List.head?_append_of_ne_nil _ hcs]
      rw [Tree.textAll_append, List.length_append] at hn
      rw [Tree.textAll_append, List.append_assoc,
        stringTail_comment (hhead ▸ ht) (htaken.append htrees r), ih (by omega), Option.map_some]
  | close hspace ht =>
      rename_i space rest
      obtain ⟨n, rfl⟩ : ∃ m, n = m + 1 := Nat.exists_eq_add_one_of_ne_zero (by omega)
      have htext : Tree.textAll (gap space ++ [.token none [q]]) ++ r = space ++ q :: r := by
        simp [Tree.textAll_append, Tree.textAll, Tree.text]
      rw [htext, stringTail_close hq hspace ht]

/-- Texts that are one string at the head of any text that starts with them. -/
def IsString (t : Text) : Prop :=
  ∃ tree, ∀ rest, string? (t ++ rest) = some (tree, rest)

theorem string?_eq_some {t : Text} {tree : Tree} {rest : Text} (h : string? t = some (tree, rest)) :
    ∃ q trees tail, isQuote q = true ∧ t = q :: tail ∧ StringTail q tail trees rest ∧
      tree = .branch none .string (.token none [q] :: trees) := by
  cases t with
  | nil =>
      cases h
  | cons q tail =>
      rw [string?] at h
      split at h
      · rename_i hq
        rcases Option.map_eq_some_iff.mp h with ⟨⟨trees, r⟩, hm, heq⟩
        rcases Prod.mk.inj heq with ⟨rfl, rfl⟩
        exact ⟨q, trees, tail, hq, rfl, stringTail_eq_some hm, rfl⟩
      · cases h

theorem string?_isString {t : Text} {tree : Tree} {rest : Text}
    (h : string? t = some (tree, rest)) : IsString tree.text := by
  rcases string?_eq_some h with ⟨q, trees, tail, hq, rfl, htail, rfl⟩
  refine ⟨.branch none .string (.token none [q] :: trees), ?_⟩
  intro r
  have hstable := htail.stable hq r
    (n := (Tree.textAll trees ++ r).length + 1) (by rw [List.length_append]; omega)
  have hq' : (q == '"' || q == '\'') = true := hq
  simp only [Tree.text, Tree.textAll, List.cons_append, List.nil_append, string?, hq',
    if_true, hstable, Option.map_some]

theorem IsString.head_isQuote {t : Text} (h : IsString t) :
    ∃ q tail, isQuote q = true ∧ t = q :: tail := by
  rcases h with ⟨tree, htree⟩
  have hnil := htree []
  rw [List.append_nil] at hnil
  rcases string?_eq_some hnil with ⟨q, _, tail, hq, ht, _⟩
  exact ⟨q, tail, hq, ht⟩

theorem IsString.append_inj {s t : Text} (hs : IsString s) (ht : IsString t) {r r' : Text}
    (h : s ++ r = t ++ r') : s = t ∧ r = r' := by
  rcases hs with ⟨tree, htree⟩
  rcases ht with ⟨tree', htree'⟩
  have hr : r = r' := by
    have heq := (htree r).symm.trans (h ▸ htree' r')
    exact (Prod.mk.inj (Option.some.inj heq)).2
  subst hr
  exact ⟨List.append_cancel_right h, rfl⟩

/-!
# Strings without comments
-/

/-- Whether a text goes up to the first quote `q` that no backslash escapes. -/
def isLiteralTail (q : Char) : Text → Bool
  | [] => false
  | '\\' :: [] => false
  | '\\' :: _ :: rest => isLiteralTail q rest
  | c :: rest => if c == q then rest.isEmpty else isLiteralTail q rest

/-- Whether a text is one literal to a reader that knows quotes and backslashes only. -/
def isLiteral : Text → Bool
  | [] => false
  | q :: rest => isQuote q && isLiteralTail q rest

theorem isLiteralTail_append {q : Char} {s : Text} (hs : ∀ c ∈ s, c ≠ q ∧ c ≠ '\\') (t : Text) :
    isLiteralTail q (s ++ t) = isLiteralTail q t := by
  induction s with
  | nil =>
      rfl
  | cons c s ih =>
      rcases hs c List.mem_cons_self with ⟨hq, hb⟩
      rw [List.cons_append, isLiteralTail, ih fun d hd => hs d (List.mem_cons_of_mem c hd)]
      · simp [hq]
      · rintro rfl
        exact absurd rfl hb
      · rintro _ _ rfl
        exact absurd rfl hb

theorem StringTail.isLiteralTail {q : Char} (hq : isQuote q = true) {t : Text}
    {trees : List Tree} {rest : Text} (h : StringTail q t trees rest)
    (hc : ∀ tree ∈ trees, tree.kind? ≠ some .comment) :
    isLiteralTail q (Tree.textAll trees) = true := by
  induction h with
  | plain hne hplain ht htail ih =>
      rw [Tree.textAll, Tree.text, isLiteralTail_append]
      · exact ih fun tree htree => hc tree (List.mem_cons_of_mem _ htree)
      · intro c hc
        have hc' := hplain c hc
        simp only [isPlain, Bool.not_eq_true', Bool.or_eq_false_iff, beq_eq_false_iff_ne] at hc'
        exact ⟨hc'.1.1.1, hc'.1.1.2⟩
  | escape he htail ih =>
      rcases escape?_spec he with ⟨_, ⟨c, more, rfl, hmore⟩, _⟩
      rw [Tree.textAll, Tree.text, List.cons_append, List.cons_append, Lexeme.isLiteralTail,
        isLiteralTail_append]
      · exact ih fun tree htree => hc tree (List.mem_cons_of_mem _ htree)
      · intro d hd
        have hd' := hmore d hd
        constructor
        · rintro rfl
          rcases isQuote_iff.mp hq with rfl | rfl <;> exact absurd hd' (by decide)
        · rintro rfl
          exact absurd hd' (by decide)
  | comment _ hahead =>
      rw [commentAhead?_false] at hahead
      rcases Option.map_eq_some_iff.mp hahead with ⟨m, _, heq⟩
      rcases Prod.mk.inj heq with ⟨rfl, _⟩
      exact absurd rfl (hc (.leaf none .comment m.1) (by simp))
  | close hspace _ =>
      rw [Tree.textAll_append, textAll_gap, isLiteralTail_append]
      · rcases isQuote_iff.mp hq with rfl | rfl <;> rfl
      · intro c hc
        have hc' := hspace c hc
        constructor
        · rintro rfl
          rcases isQuote_iff.mp hq with rfl | rfl <;> exact absurd hc' (by decide)
        · rintro rfl
          exact absurd hc' (by decide)

theorem string?_isLiteral {t : Text} {tree : Tree} {rest : Text}
    (h : string? t = some (tree, rest))
    (hc : ∀ child ∈ tree.children, child.kind? ≠ some .comment) : isLiteral tree.text = true := by
  rcases string?_eq_some h with ⟨q, trees, tail, hq, _, htail, rfl⟩
  have htrees : ∀ child ∈ trees, child.kind? ≠ some .comment := by
    intro child hchild
    exact hc child (List.mem_cons_of_mem _ hchild)
  simp [Tree.text, Tree.textAll, isLiteral, hq, htail.isLiteralTail hq htrees]

end Lexeme
end ComponentDecl
