import ComponentDecl.Proofs.Quoted

/-!
# Reading a declaration

A reader that knows two things only: block comments, which go from `/*` to the first `*/`,
and literals, which go from a quote to the next such quote that no backslash escapes.
Everything else is plain code, in which the reader counts the braces.
-/

namespace ComponentDecl
namespace Reader

/-- What the reader tells apart. -/
inductive Token where
  /-- A character of code. -/
  | plain (c : Char)
  /-- A block comment, by what stands between its marks. -/
  | comment (text : Text)
  /-- A literal with its quotes. -/
  | literal (text : Text)
  deriving DecidableEq, Repr

/-- Where the reader is: in code, or in a comment or a literal of which it has read a
part. -/
inductive Mode where
  | code
  | comment (read : Text)
  | literal (quote : Char) (read : Text)

/-- The tokens of a text, unless it ends inside a comment or a literal. -/
def readFrom : Mode → Text → Option (List Token)
  | .code, [] => some []
  | .comment _, [] => none
  | .literal _ _, [] => none
  | .code, '/' :: '*' :: t => readFrom (.comment []) t
  | .code, c :: t =>
      if Lexeme.isQuote c then readFrom (.literal c [c]) t
      else (readFrom .code t).map (.plain c :: ·)
  | .comment s, '*' :: '/' :: t => (readFrom .code t).map (.comment s :: ·)
  | .comment s, c :: t => readFrom (.comment (s ++ [c])) t
  | .literal q s, '\\' :: c :: t => readFrom (.literal q (s ++ ['\\', c])) t
  | .literal q s, c :: t =>
      if c = q then (readFrom .code t).map (.literal (s ++ [c]) :: ·)
      else readFrom (.literal q (s ++ [c])) t

/-- The tokens of a text that starts and ends in code. -/
def read (t : Text) : Option (List Token) :=
  readFrom .code t

/-- The comments among the tokens. -/
def comments (ts : List Token) : List Text :=
  ts.filterMap fun
    | .comment t => some t
    | _ => none

/-- How many braces of code a token opens. -/
def Token.opened : Token → Int
  | .plain '\x7b' => 1
  | .plain '\x7d' => -1
  | _ => 0

/-- How many braces of code are open behind the tokens. -/
def level : List Token → Int
  | [] => 0
  | t :: ts => t.opened + level ts

@[simp] theorem level_nil : level [] = 0 := rfl

@[simp] theorem level_cons (t : Token) (ts : List Token) :
    level (t :: ts) = t.opened + level ts := rfl

@[simp] theorem level_append (ss ts : List Token) :
    level (ss ++ ts) = level ss + level ts := by
  induction ss with
  | nil =>
      simp
  | cons s ss ih =>
      rw [List.cons_append, level_cons, level_cons, ih, Int.add_assoc]

@[simp] theorem comments_map_plain (s : Text) : comments (s.map .plain) = [] := by
  simp [comments]

@[simp] theorem comments_append (ss ts : List Token) :
    comments (ss ++ ts) = comments ss ++ comments ts := by
  simp [comments]

/-!
# Pieces of code

A piece of code is read the same whatever follows it, so a text can be read piece by
piece.
-/

/-- The text is read as the tokens, in front of any other text. -/
def Reads (s : Text) (ts : List Token) : Prop :=
  ∀ rest, readFrom .code (s ++ rest) = (readFrom .code rest).map (ts ++ ·)

theorem Reads.read_eq {s : Text} {ts : List Token} (h : Reads s ts) : read s = some ts := by
  have hnil := h []
  rw [List.append_nil] at hnil
  rw [read, hnil]
  simp [readFrom]

theorem reads_nil : Reads [] [] := by
  intro rest
  rw [List.nil_append]
  cases readFrom .code rest <;> rfl

theorem Reads.append {s s' : Text} {ts ts' : List Token} (h : Reads s ts) (h' : Reads s' ts') :
    Reads (s ++ s') (ts ++ ts') := by
  intro rest
  rw [List.append_assoc, h, h']
  cases readFrom .code rest <;> simp

theorem reads_plain {c : Char} (hslash : c ≠ '/') (hquote : Lexeme.isQuote c = false) :
    Reads [c] [.plain c] := by
  intro rest
  rw [List.cons_append, List.nil_append, readFrom]
  · simp [hquote]
  · rintro _ rfl
    exact absurd rfl hslash

/-- A comment without an end mark inside is read as one token. -/
theorem readFrom_comment {b : Text} (hb : Lexeme.NoEnd b) (s rest : Text) :
    readFrom (.comment s) (b ++ '*' :: '/' :: rest) =
      (readFrom .code rest).map (.comment (s ++ b) :: ·) := by
  induction b generalizing s with
  | nil =>
      rw [List.nil_append, readFrom, List.append_nil]
  | cons c b ih =>
      rw [Lexeme.noEnd_cons] at hb
      rw [List.cons_append, readFrom, ih hb.2, List.append_assoc]
      · rfl
      · rintro t rfl htail
        cases b with
        | nil =>
            cases htail
        | cons d b =>
            have hd : d = '/' := (List.cons.inj htail).1
            exact hb.1 ⟨rfl, congrArg some hd⟩

theorem reads_comment {b : Text} (hb : Lexeme.NoEnd b) :
    Reads (['/', '*'] ++ b ++ ['*', '/']) [.comment b] := by
  intro rest
  have htext : ['/', '*'] ++ b ++ ['*', '/'] ++ rest = '/' :: '*' :: (b ++ '*' :: '/' :: rest) := by
    simp
  rw [htext, readFrom, readFrom_comment hb]
  rfl

theorem readFrom_literal {q : Char} {t : Text} (ht : Lexeme.isLiteralTail q t = true)
    (s rest : Text) :
    readFrom (.literal q s) (t ++ rest) =
      (readFrom .code rest).map (.literal (s ++ t) :: ·) := by
  fun_induction Lexeme.isLiteralTail q t generalizing s with
  | case1 =>
      cases ht
  | case2 =>
      cases ht
  | case3 c t ih =>
      rw [List.cons_append, List.cons_append, readFrom, ih ht, List.append_assoc]
      rfl
  | case4 c t h₁ h₂ hq =>
      rcases eq_of_beq hq with rfl
      rcases List.isEmpty_iff.mp ht with rfl
      rw [List.cons_append, readFrom]
      · simp
      · rintro d u hc _
        exact h₁ hc rfl
  | case5 c t h₁ h₂ hq ih =>
      rw [List.cons_append, readFrom]
      · rw [if_neg (by simpa using hq), ih ht, List.append_assoc]
        rfl
      · rintro d u hc _
        -- a backslash is followed by a character or is the end
        cases t with
        | nil =>
            exact h₁ hc rfl
        | cons e t =>
            exact h₂ e t hc rfl

/-- A literal is read as one token. -/
theorem reads_literal {t : Text} (ht : Lexeme.isLiteral t = true) : Reads t [.literal t] := by
  intro rest
  cases t with
  | nil =>
      cases ht
  | cons q t =>
      rw [Lexeme.isLiteral, Bool.and_eq_true] at ht
      have hslash : q ≠ '/' := by
        rintro rfl
        exact absurd ht.1 (by decide)
      rw [List.cons_append, readFrom, if_pos ht.1, readFrom_literal ht.2]
      · rfl
      · rintro _ rfl
        exact absurd rfl hslash

/-!
# Balanced pieces
-/

/-- The braces of the tokens are balanced, and once one is open they are all closed again
only by the brace at the end of the last line. -/
structure ClosesAtEnd (ts : List Token) : Prop where
  ends : ∃ inner, ts = inner ++ [.plain '\x7d', .plain '\n'] ∧
    ∀ p, p <+: inner → 0 ≤ level p ∧ (.plain '\x7b' ∈ p → 0 < level p)
  settled : level ts = 0

/-- Tokens that close every brace they open, and no other. -/
structure Balanced (ts : List Token) : Prop where
  nonneg : ∀ p, p <+: ts → 0 ≤ level p
  settled : level ts = 0

theorem balanced_of_opened {ts : List Token} (h : ∀ t ∈ ts, t.opened = 0) : Balanced ts := by
  have hlevel : ∀ p : List Token, (∀ t ∈ p, t.opened = 0) → level p = 0 := by
    intro p hp
    induction p with
    | nil =>
        rfl
    | cons t p ih =>
        rw [level_cons, hp t List.mem_cons_self, ih fun u hu => hp u (List.mem_cons_of_mem t hu)]
        rfl
  constructor
  · intro p hp
    have hzero := hlevel p fun t ht => h t (hp.subset ht)
    omega
  · exact hlevel ts h

theorem prefix_append_cases {p ss ts : List Token} (h : p <+: ss ++ ts) :
    p <+: ss ∨ ∃ q, q <+: ts ∧ p = ss ++ q := by
  rcases List.prefix_or_prefix_of_prefix h (List.prefix_append ss ts) with hp | ⟨q, rfl⟩
  · exact Or.inl hp
  · exact Or.inr ⟨q, (List.prefix_append_right_inj ss).mp h, rfl⟩

theorem Balanced.append {ss ts : List Token} (hs : Balanced ss) (ht : Balanced ts) :
    Balanced (ss ++ ts) := by
  constructor
  · intro p hp
    rcases prefix_append_cases hp with hp | ⟨q, hq, rfl⟩
    · exact hs.nonneg p hp
    · rw [level_append, hs.settled, Int.zero_add]
      exact ht.nonneg q hq
  · rw [level_append, hs.settled, ht.settled]
    rfl

/-- Behind an open brace no part of a balanced piece closes it. -/
theorem Balanced.level_pos {ts p : List Token} (h : Balanced ts)
    (hp : p <+: .plain '\x7b' :: ts) (hne : p ≠ []) : 0 < level p := by
  rcases List.prefix_cons_iff.mp hp with rfl | ⟨q, rfl, hq⟩
  · exact absurd rfl hne
  · have hlevel := h.nonneg q hq
    rw [level_cons]
    simp only [Token.opened]
    omega

theorem Balanced.block {ts : List Token} (h : Balanced ts) :
    Balanced (.plain '\x7b' :: ts ++ [.plain '\x7d']) := by
  have hsettled : level (.plain '\x7b' :: ts ++ [.plain '\x7d']) = 0 := by
    simp [h.settled, Token.opened]
  constructor
  · intro p hp
    rcases List.prefix_concat_iff.mp hp with rfl | hp
    · omega
    · cases p with
      | nil =>
          simp
      | cons t p =>
          exact Int.le_of_lt (h.level_pos hp (by simp))
  · exact hsettled

/-!
# Rendered pieces
-/

/-- The text is a balanced piece of code with the given comments in it. -/
def Renders (s : Text) (docs : List Text) : Prop :=
  ∃ ts, Reads s ts ∧ Balanced ts ∧ comments ts = docs

theorem renders_nil : Renders [] [] :=
  ⟨[], reads_nil, balanced_of_opened (by simp), rfl⟩

theorem Renders.append {s s' : Text} {docs docs' : List Text} (h : Renders s docs)
    (h' : Renders s' docs') : Renders (s ++ s') (docs ++ docs') := by
  rcases h with ⟨ts, hreads, hbalanced, rfl⟩
  rcases h' with ⟨ts', hreads', hbalanced', rfl⟩
  exact ⟨ts ++ ts', hreads.append hreads', hbalanced.append hbalanced', comments_append ts ts'⟩

/-- Code without comments in front of a piece. -/
theorem Renders.prepend {s s' : Text} {docs : List Text} (h : Renders s [])
    (h' : Renders s' docs) : Renders (s ++ s') docs :=
  h.append h'

/-- Code without comments behind a piece. -/
theorem Renders.push {s s' : Text} {docs : List Text} (h : Renders s docs)
    (h' : Renders s' []) : Renders (s ++ s') docs := by
  have happend := h.append h'
  rwa [List.append_nil] at happend

/-- Whether a character of code means nothing to the reader. -/
def isInert (c : Char) : Bool :=
  !(Lexeme.isQuote c || c == '/' || c == '\x7b' || c == '\x7d')

theorem reads_inert {s : Text} (h : s.all isInert = true) : Reads s (s.map .plain) := by
  induction s with
  | nil =>
      exact reads_nil
  | cons c s ih =>
      rw [List.all_cons, Bool.and_eq_true] at h
      have hc : ((Lexeme.isQuote c = false ∧ c ≠ '/') ∧ c ≠ '\x7b') ∧ c ≠ '\x7d' := by
        simpa [isInert] using h.1
      exact (reads_plain hc.1.1.2 hc.1.1.1).append (ih h.2)

theorem opened_of_isInert {c : Char} (h : isInert c = true) : (Token.plain c).opened = 0 := by
  unfold Token.opened
  split
  · rename_i heq
    rcases Token.plain.inj heq with rfl
    exact absurd h (by decide)
  · rename_i heq
    rcases Token.plain.inj heq with rfl
    exact absurd h (by decide)
  · rfl

theorem opened_map_plain {s : Text} (h : s.all isInert = true) :
    ∀ t ∈ s.map Token.plain, t.opened = 0 := by
  intro t ht
  rcases List.mem_map.mp ht with ⟨c, hc, rfl⟩
  exact opened_of_isInert (List.all_eq_true.mp h c hc)

theorem renders_inert {s : Text} (h : s.all isInert = true) : Renders s [] := by
  refine ⟨s.map .plain, reads_inert h, balanced_of_opened (opened_map_plain h), ?_⟩
  exact comments_map_plain s

theorem renders_block {s : Text} {docs : List Text} (h : Renders s docs) :
    Renders (['\x7b'] ++ s ++ ['\x7d']) docs := by
  rcases h with ⟨ts, hreads, hbalanced, rfl⟩
  have hopen : Reads ['\x7b'] [.plain '\x7b'] := reads_plain (by decide) (by decide)
  have hclose : Reads ['\x7d'] [.plain '\x7d'] := reads_plain (by decide) (by decide)
  refine ⟨.plain '\x7b' :: ts ++ [.plain '\x7d'], ?_, hbalanced.block, ?_⟩
  · exact (hopen.append hreads).append hclose
  · rw [comments_append]
    simp [comments]

theorem renders_comment {b : Text} (hb : Lexeme.NoEnd b) :
    Renders (['/', '*'] ++ b ++ ['*', '/']) [b] :=
  ⟨[.comment b], reads_comment hb, balanced_of_opened (by simp [Token.opened]), rfl⟩

theorem renders_literal {t : Text} (ht : Lexeme.isLiteral t = true) : Renders t [] :=
  ⟨[.literal t], reads_literal ht, balanced_of_opened (by simp [Token.opened]), rfl⟩

/-- A head without braces, a balanced piece in braces and the end of the line. -/
theorem closesAtEnd_block {head ts : List Token} (hhead : ∀ t ∈ head, t.opened = 0)
    (h : Balanced ts) :
    ClosesAtEnd (head ++ (.plain '\x7b' :: ts) ++ [.plain '\x7d', .plain '\n']) := by
  have hbalanced := balanced_of_opened hhead
  constructor
  · refine ⟨head ++ (.plain '\x7b' :: ts), rfl, ?_⟩
    intro p hp
    rcases prefix_append_cases hp with hp | ⟨q, hq, rfl⟩
    · refine ⟨hbalanced.nonneg p hp, ?_⟩
      intro hmem
      exact absurd (hhead _ (hp.subset hmem)) (by decide)
    · rw [level_append, hbalanced.settled, Int.zero_add]
      cases q with
      | nil =>
          refine ⟨by simp, ?_⟩
          intro hmem
          rw [List.append_nil] at hmem
          exact absurd (hhead _ hmem) (by decide)
      | cons t q =>
          have hpos := h.level_pos hq (by simp)
          exact ⟨Int.le_of_lt hpos, fun _ => hpos⟩
  · simp [hbalanced.settled, h.settled, Token.opened]

end Reader
end ComponentDecl
