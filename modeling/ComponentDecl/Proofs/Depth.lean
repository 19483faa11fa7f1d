import ComponentDecl.Proofs.Act

/-!
# Depth along a run

A program whose blocks match keeps the writer's depth in step with its open blocks from the
first action to the last, so that a last line stands as deep as the first line it belongs to.
-/

namespace ComponentDecl

namespace Step

/-!
# Matching blocks
-/

/-- The steps that a step stands around. -/
def body : Step → List Step
  | declareModule _ body => body
  | importAll _ _ body => body
  | exportDefault body => body
  | classDecl _ _ _ body => body
  | _ => []

/-- Whether a step is the first or the last line of a block alone. -/
def isBracket : Step → Bool
  | openBlock _ => true
  | closeBlock => true
  | _ => false

/-- Programs in which first and last lines of blocks match like brackets, in the program
itself and inside each of its steps. -/
inductive Matched : List Step → Prop where
  | nil : Matched []
  | step {s : Step} {rest : List Step} (hs : s.isBracket = false) (hbody : Matched s.body)
      (hrest : Matched rest) : Matched (s :: rest)
  | block {header : Text} {inner rest : List Step} (hinner : Matched inner)
      (hrest : Matched rest) : Matched (openBlock header :: (inner ++ closeBlock :: rest))

/-!
# Deciding whether blocks match

Counting the open blocks decides it: there is always one to close, and none is left over.
-/

mutual

/-- Whether blocks match inside a step. -/
def bodyMatches : Step → Bool
  | declareModule _ body => matchesFrom 0 body
  | importAll _ _ body => matchesFrom 0 body
  | exportDefault body => matchesFrom 0 body
  | classDecl _ _ _ body => matchesFrom 0 body
  | _ => true

/-- Whether steps close so many open blocks and every block that they open. -/
def matchesFrom : Nat → List Step → Bool
  | n, [] => n == 0
  | n, openBlock _ :: rest => matchesFrom (n + 1) rest
  | 0, closeBlock :: _ => false
  | n + 1, closeBlock :: rest => matchesFrom n rest
  | n, s :: rest => bodyMatches s && matchesFrom n rest

end

theorem bodyMatches_eq (s : Step) : s.bodyMatches = matchesFrom 0 s.body := by
  cases s <;> rfl

theorem matchesFrom_step {s : Step} (hs : s.isBracket = false) (n : Nat) (rest : List Step) :
    matchesFrom n (s :: rest) = (bodyMatches s && matchesFrom n rest) := by
  cases s with
  | openBlock h =>
      cases hs
  | closeBlock =>
      cases hs
  | _ =>
      rfl

theorem Matched.matchesFrom_append {p : List Step} (hp : Matched p) (n : Nat)
    (more : List Step) : matchesFrom n (p ++ more) = matchesFrom n more := by
  induction hp generalizing n more with
  | nil =>
      rfl
  | step hs _ _ ihbody ihrest =>
      -- a body is counted on its own, from no open block
      have hbody := ihbody 0 []
      rw [List.append_nil] at hbody
      rw [List.cons_append, matchesFrom_step hs, ihrest, bodyMatches_eq, hbody]
      rfl
  | block _ _ ihinner ihrest =>
      rw [List.cons_append, List.append_assoc, matchesFrom, ihinner, List.cons_append,
        matchesFrom, ihrest]

/-- Steps that close so many open blocks: matching steps, one last line after the other
between them. -/
def Closes : Nat → List Step → Prop
  | 0, p => Matched p
  | n + 1, p => ∃ inner rest, p = inner ++ closeBlock :: rest ∧ Matched inner ∧ Closes n rest

theorem Closes.step {s : Step} (hs : s.isBracket = false) (hbody : Matched s.body) {n : Nat}
    {p : List Step} (hp : Closes n p) : Closes n (s :: p) := by
  cases n with
  | zero =>
      exact Matched.step hs hbody hp
  | succ n =>
      rcases hp with ⟨inner, rest, rfl, hinner, hrest⟩
      exact ⟨s :: inner, rest, rfl, Matched.step hs hbody hinner, hrest⟩

theorem Closes.openBlock {n : Nat} {p : List Step} (hp : Closes (n + 1) p) (header : Text) :
    Closes n (openBlock header :: p) := by
  rcases hp with ⟨inner, rest, rfl, hinner, hrest⟩
  cases n with
  | zero =>
      exact .block hinner hrest
  | succ n =>
      -- the first last line now closes the new block, which joins the steps up to the next one
      rcases hrest with ⟨inner', rest', rfl, hinner', hrest'⟩
      refine ⟨Step.openBlock header :: (inner ++ closeBlock :: inner'), rest', ?_,
        .block hinner hinner', hrest'⟩
      simp

mutual

theorem matched_body_of_bodyMatches {s : Step} (h : s.bodyMatches = true) : Matched s.body := by
  cases s with
  | declareModule n body =>
      exact closes_of_matchesFrom h
  | importAll a s body =>
      exact closes_of_matchesFrom h
  | exportDefault body =>
      exact closes_of_matchesFrom h
  | classDecl n b p body =>
      exact closes_of_matchesFrom h
  | _ =>
      exact .nil

theorem closes_of_matchesFrom {n : Nat} {p : List Step} (h : matchesFrom n p = true) :
    Closes n p := by
  cases p with
  | nil =>
      have hn : n = 0 := eq_of_beq h
      subst hn
      exact .nil
  | cons s rest =>
      cases hs : s.isBracket with
      | false =>
          rw [matchesFrom_step hs, Bool.and_eq_true] at h
          exact (closes_of_matchesFrom h.2).step hs (matched_body_of_bodyMatches h.1)
      | true =>
          cases s with
          | openBlock header =>
              have hrest : matchesFrom (n + 1) rest = true := h
              exact (closes_of_matchesFrom hrest).openBlock header
          | closeBlock =>
              cases n with
              | zero =>
                  cases h
              | succ n =>
                  exact ⟨[], rest, rfl, .nil, closes_of_matchesFrom h⟩
          | _ =>
              cases hs

end

theorem matchesFrom_zero_iff {p : List Step} : matchesFrom 0 p = true ↔ Matched p := by
  constructor
  · intro h
    exact closes_of_matchesFrom h
  · intro h
    have happend := h.matchesFrom_append 0 []
    rw [List.append_nil] at happend
    exact happend

instance (p : List Step) : Decidable (Matched p) :=
  decidable_of_iff _ matchesFrom_zero_iff

end Step

/-!
# Open blocks
-/

/-- A writer with the depths at which the first lines of its open blocks were written, the
innermost block first. -/
structure Watched where
  writer : Writer
  opened : List Nat

namespace Watched

def apply (s : Watched) (a : Act) : Watched where
  writer := a.apply s.writer
  opened :=
    match a with
    | .enter => s.writer.depth :: s.opened
    | .leave => s.opened.tail
    | _ => s.opened

/-- What is seen after actions of a writer, of which no block is open at first. -/
def after (as : List Act) (w : Writer) : Watched :=
  as.foldl apply ⟨w, []⟩

end Watched

namespace Act

/-- Actions that leave so many open blocks and every block that they enter, each by its last
line. -/
def Fits : Nat → List Act → Prop
  | n, [] => n = 0
  | n, write _ :: rest => Fits n rest
  | n, indent :: rest => Fits n rest
  | n, enter :: rest => Fits (n + 1) rest
  | 0, leave :: _ => False
  | n + 1, leave :: rest => line "\x7d" <+: rest ∧ Fits n rest

@[simp] theorem fits_write (n : Nat) (t : Text) (rest : List Act) :
    Fits n (write t :: rest) ↔ Fits n rest := by
  cases n <;> rfl

@[simp] theorem fits_indent (n : Nat) (rest : List Act) :
    Fits n (indent :: rest) ↔ Fits n rest := by
  cases n <;> rfl

@[simp] theorem fits_enter (n : Nat) (rest : List Act) :
    Fits n (enter :: rest) ↔ Fits (n + 1) rest := by
  cases n <;> rfl

theorem fits_leave {n : Nat} {rest : List Act} :
    Fits n (leave :: rest) ↔ ∃ m, n = m + 1 ∧ line "\x7d" <+: rest ∧ Fits m rest := by
  cases n with
  | zero =>
      simp [Fits]
  | succ n =>
      simp [Fits]

/-- Actions that may stand in front of others whatever blocks are open. -/
def Neutral (as : List Act) : Prop :=
  ∀ n rest, Fits n rest → Fits n (as ++ rest)

theorem neutral_nil : Neutral [] := by
  intro n rest h
  exact h

theorem Neutral.append {as bs : List Act} (ha : Neutral as) (hb : Neutral bs) :
    Neutral (as ++ bs) := by
  intro n rest h
  rw [List.append_assoc]
  exact ha n _ (hb n rest h)

theorem neutral_line (t : Text) : Neutral (line t) := by
  intro n rest h
  simpa [line] using h

theorem Neutral.block {as : List Act} (h : Neutral as) :
    Neutral (enter :: as ++ lastLine) := by
  intro n rest hrest
  have hlast : Fits (n + 1) (lastLine ++ rest) := by
    apply fits_leave.mpr
    exact ⟨n, rfl, List.prefix_append (line "\x7d") rest, neutral_line _ n rest hrest⟩
  have hinner := h (n + 1) _ hlast
  simpa using hinner

theorem neutral_furtherLines (ts : List Text) : Neutral (furtherLines ts) := by
  induction ts with
  | nil =>
      exact neutral_nil
  | cons t rest ih =>
      intro n more h
      simpa [furtherLines] using ih n more h

theorem neutral_comment (t : Text) : Neutral (comment t) := by
  unfold comment
  split
  · exact neutral_nil
  · intro n more h
    simpa using neutral_furtherLines _ n (write "*/\n" :: more) (by simpa using h)

theorem neutral_prop (p : Text × PropEntry) : Neutral (prop p) := by
  unfold prop
  apply Neutral.append
  · cases p.2.doc with
    | none =>
        exact neutral_nil
    | some doc =>
        exact neutral_comment doc
  · exact neutral_line _

theorem neutral_props (ps : List (Text × PropEntry)) : Neutral (ps.flatMap prop) := by
  induction ps with
  | nil =>
      exact neutral_nil
  | cons p rest ih =>
      exact (neutral_prop p).append ih

end Act

namespace Step

open Act

/-- A block around neutral actions, its first line as a line of its own. -/
theorem neutral_block {as : List Act} (h : Neutral as) (header : Text) :
    Neutral (firstLine header ++ as ++ lastLine) := by
  have hblock := (neutral_line (header ++ " \x7b".toList)).append h.block
  simpa [firstLine] using hblock

theorem neutral_actions {s : Step} (hs : s.isBracket = false)
    (hbody : Neutral (actionsAll s.body)) : Neutral s.actions := by
  cases s with
  | line t =>
      exact neutral_line t
  | newline =>
      intro n rest h
      simpa [actions] using h
  | openBlock h =>
      cases hs
  | closeBlock =>
      cases hs
  | property n t o =>
      exact neutral_line _
  | comment t =>
      exact neutral_comment t
  | declareModule n body =>
      exact neutral_block hbody _
  | importAll a s body =>
      exact (neutral_line _).append hbody
  | interface n props =>
      exact neutral_block (neutral_props props.entries) _
  | exportDefault body =>
      intro n rest h
      simpa [actions, Step.body] using hbody n rest h
  | classDecl n b p body =>
      intro m rest h
      simpa [actions, Step.body] using hbody.block m rest h

theorem Matched.neutral {p : List Step} (hp : Matched p) : Neutral (actionsAll p) := by
  -- by induction on how the blocks match; fitting alone would not go through a block, as its
  -- inner steps fit with one more block open
  induction hp with
  | nil =>
      exact neutral_nil
  | step hs _ _ ihbody ihrest =>
      exact (neutral_actions hs ihbody).append ihrest
  | @block header inner rest _ _ ihinner ihrest =>
      have hblock := (neutral_block ihinner header).append ihrest
      simpa [actionsAll, actionsAll_append, actions] using hblock

theorem Matched.fits {p : List Step} (hp : Matched p) : Fits 0 (actionsAll p) := by
  have h := hp.neutral 0 [] rfl
  rwa [List.append_nil] at h

end Step

namespace Watched

/-- The depths of so many blocks inside each other, the innermost first. -/
def nested (d : Nat) : Nat → List Nat
  | 0 => []
  | n + 1 => (d + n) :: nested d n

@[simp] theorem length_nested (d n : Nat) : (nested d n).length = n := by
  induction n with
  | zero =>
      rfl
  | succ n ih =>
      rw [nested, List.length_cons, ih]

theorem writer_after (as : List Act) (w : Writer) :
    (after as w).writer = Act.applyAll as w := by
  have hfold : ∀ s : Watched, (as.foldl apply s).writer = Act.applyAll as s.writer := by
    induction as with
    | nil =>
        intro s
        rfl
    | cons a rest ih =>
        intro s
        rw [List.foldl_cons, ih]
        rfl
  exact hfold ⟨w, []⟩

/-- Whether a writer has so many blocks open, each one deeper than the one around it. -/
def Holds (s : Watched) (d n : Nat) : Prop :=
  s.writer.depth = d + n ∧ s.opened = nested d n

theorem holds_after_action {s : Watched} {d n : Nat} (h : s.Holds d n) {a : Act}
    {rest : List Act} (hfits : Act.Fits n (a :: rest)) :
    ∃ m, (s.apply a).Holds d m ∧ Act.Fits m rest := by
  rcases h with ⟨hdepth, hopened⟩
  cases a with
  | write t =>
      exact ⟨n, ⟨hdepth, hopened⟩, (Act.fits_write n t rest).mp hfits⟩
  | indent =>
      exact ⟨n, ⟨hdepth, hopened⟩, (Act.fits_indent n rest).mp hfits⟩
  | enter =>
      refine ⟨n + 1, ⟨?_, ?_⟩, (Act.fits_enter n rest).mp hfits⟩
      · show s.writer.depth + 1 = d + (n + 1)
        omega
      · show s.writer.depth :: s.opened = (d + n) :: nested d n
        rw [hdepth, hopened]
  | leave =>
      rcases Act.fits_leave.mp hfits with ⟨m, rfl, _, hrest⟩
      refine ⟨m, ⟨?_, ?_⟩, hrest⟩
      · show s.writer.depth - 1 = d + m
        omega
      · show s.opened.tail = nested d m
        rw [hopened]
        rfl

/-- Along actions that fit, the depth counts the open blocks. -/
theorem holds_along {s : Watched} {d n : Nat} (h : s.Holds d n) {done todo : List Act}
    (hfits : Act.Fits n (done ++ todo)) :
    ∃ m, (done.foldl apply s).Holds d m ∧ Act.Fits m todo := by
  induction done generalizing s n with
  | nil =>
      exact ⟨n, h, hfits⟩
  | cons a rest ih =>
      rcases holds_after_action h hfits with ⟨m, hm, hrest⟩
      exact ih hm hrest

theorem holds_of_matched {p : List Step} (hp : Step.Matched p) (w : Writer)
    {done todo : List Act} (hsplit : Step.actionsAll p = done ++ todo) :
    ∃ m, (after done w).Holds w.depth m ∧ Act.Fits m todo := by
  have hfits := hp.fits
  rw [hsplit] at hfits
  have hstart : Holds ⟨w, []⟩ w.depth 0 := ⟨rfl, rfl⟩
  exact holds_along hstart hfits

theorem after_actionsAll {p : List Step} (hp : Step.Matched p) (w : Writer) :
    after (Step.actionsAll p) w = ⟨Step.runAll p w, []⟩ ∧
      (Step.runAll p w).depth = w.depth := by
  rcases holds_of_matched hp w (List.append_nil _).symm with ⟨m, ⟨hdepth, hopened⟩, hfits⟩
  have hm : m = 0 := hfits
  subst hm
  have hwriter : (after (Step.actionsAll p) w).writer = Step.runAll p w := by
    rw [writer_after, Step.applyAll_actionsAll]
  rw [hwriter] at hdepth
  refine ⟨?_, hdepth⟩
  rw [← hwriter]
  show after (Step.actionsAll p) w = ⟨(after (Step.actionsAll p) w).writer, nested w.depth 0⟩
  rw [← hopened]

/-- The last line of a block is indented like its first. -/
theorem output_lastLine {s : Watched} {d n : Nat} (h : s.Holds d (n + 1)) :
    (Act.applyAll Act.lastLine s.writer).output =
      s.writer.output ++ Text.times (d + n) s.writer.unit ++ "\x7d\n".toList := by
  have hdepth : s.writer.depth - 1 = d + n := by
    rw [h.1]
    omega
  rw [Act.applyAll_lastLine, Writer.closeBlock, Writer.line_eq]
  show s.writer.output ++ (Text.times (s.writer.depth - 1) s.writer.unit ++ _ ++ _) = _
  rw [hdepth]
  simp only [List.append_assoc]
  rfl

end Watched

/-- A program whose blocks match ends at the depth it began at and only appends.  At each
moment on the way the depth counts the open blocks; a block is only left while one is open,
and the line that then follows is indented as deep as the first line of that block was. -/
theorem depth_follows_open_blocks {p : List Step} (hp : Step.Matched p) (w : Writer) :
    (Step.runAll p w).depth = w.depth ∧
      w.output <+: (Step.runAll p w).output ∧
      Watched.after (Step.actionsAll p) w = ⟨Step.runAll p w, []⟩ ∧
      (∀ v ∈ Step.courseAll p w, ∃ done, done <+: Step.actionsAll p ∧
        v = (Watched.after done w).writer) ∧
      ∀ done todo, Step.actionsAll p = done ++ todo →
        (Watched.after done w).writer.depth =
            w.depth + (Watched.after done w).opened.length ∧
          ∀ rest, todo = .leave :: rest →
            0 < (Watched.after done w).writer.depth ∧
              ∃ e outer more, (Watched.after done w).opened = e :: outer ∧
                todo = Act.lastLine ++ more ∧
                (Watched.after (done ++ Act.lastLine) w).writer.output =
                  (Watched.after done w).writer.output ++ Text.times e w.unit ++
                    "\x7d\n".toList := by
  rcases Watched.after_actionsAll hp w with ⟨hend, hdepth⟩
  refine ⟨hdepth, ?_, hend, ?_, ?_⟩
  · rw [← Step.applyAll_actionsAll]
    exact Act.output_prefix_applyAll _ w
  · intro v hv
    rcases Step.passes_of_mem_courseAll hv with ⟨done, hdone, hv⟩
    exact ⟨done, hdone, by rw [hv, Watched.writer_after]⟩
  · intro done todo hsplit
    rcases Watched.holds_of_matched hp w hsplit with ⟨m, hholds, hfits⟩
    refine ⟨by rw [hholds.1, hholds.2, Watched.length_nested], ?_⟩
    rintro rest rfl
    rcases Act.fits_leave.mp hfits with ⟨n, rfl, ⟨more, hmore⟩, _⟩
    have hunit : (Watched.after done w).writer.unit = w.unit := by
      rw [Watched.writer_after, Act.unit_applyAll]
    refine ⟨by rw [hholds.1]; omega, w.depth + n, Watched.nested w.depth n, more, hholds.2,
      by rw [← hmore]; rfl, ?_⟩
    have hline := Watched.output_lastLine hholds
    rw [hunit] at hline
    rw [Watched.writer_after, Act.applyAll_append, ← hline, Watched.writer_after]

/-- A class inside a module inside a block, with a block of its own and a comment of two
lines. -/
def nestedProgram : List Step :=
  [.openBlock "namespace n",
    .declareModule "m" [
      .importAll "React" "react" [
        .newline,
        .interface "Props" ⟨[("a", ⟨"any", some "* one\n * two "⟩)]⟩,
        .exportDefault [
          .classDecl "A" "React.Component" none [
            .openBlock "static", .comment "a\nb", .closeBlock, .line "x"]]]],
    .closeBlock]

theorem depth_follows_open_blocks_nested :
    Step.Matched nestedProgram ∧
      (Step.runAll nestedProgram ⟨"old", 3, "  "⟩).depth = 3 ∧
      ∃ done rest, Step.actionsAll nestedProgram = done ++ .leave :: rest ∧
        (Watched.after done ⟨"old", 3, "  "⟩).opened = [6, 5, 4, 3] ∧
        (Watched.after done ⟨"old", 3, "  "⟩).writer.depth = 7 ∧
        (Watched.after (done ++ Act.lastLine) ⟨"old", 3, "  "⟩).writer.output =
          (Watched.after done ⟨"old", 3, "  "⟩).writer.output ++ Text.times 6 "  " ++
            "\x7d\n".toList := by
  have hmatched : Step.Matched nestedProgram := by decide
  -- the moment before the last line of the block inside the class
  have hsplit : Step.actionsAll nestedProgram =
      (Step.actionsAll nestedProgram).take 46 ++
        .leave :: (Step.actionsAll nestedProgram).drop 47 := by decide
  have hopened : (Watched.after ((Step.actionsAll nestedProgram).take 46)
      ⟨"old", 3, "  "⟩).opened = [6, 5, 4, 3] := by decide
  rcases depth_follows_open_blocks hmatched ⟨"old", 3, "  "⟩ with ⟨hdepth, _, _, _, hmoments⟩
  rcases hmoments _ _ hsplit with ⟨hcount, hleave⟩
  rcases hleave _ rfl with ⟨_, e, outer, _, he, _, hline⟩
  rw [hopened] at hcount he
  rcases List.cons.inj he with ⟨rfl, _⟩
  exact ⟨hmatched, hdepth, _, _, hsplit, hopened, hcount, hline⟩

end ComponentDecl
