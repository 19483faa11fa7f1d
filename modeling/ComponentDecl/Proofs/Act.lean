import ComponentDecl.Proofs.Writing

/-!
# Runs by single actions

A program for the writer is run by single actions: texts are appended, lines are indented,
and the depth goes up behind the first line of a block and down before its last.  The
actions of a program bring a writer to where the program brings it, by way of every writer
that stands between two of its steps.
-/

namespace ComponentDecl

/-!
# Actions

Indentation stands in front of a line, of the first and each further line of a comment, and
of the words that export.  An empty line and the first line of a class have none.
-/

/-- What is done to a writer at a time. -/
inductive Act where
  /-- Appends a text. -/
  | write (t : Text)
  /-- Appends the indentation. -/
  | indent
  /-- Goes one block deeper, right behind the first line of the block. -/
  | enter
  /-- Leaves a block, right before its last line. -/
  | leave
  deriving DecidableEq, Repr

namespace Act

def apply : Act → Writer → Writer
  | write t, w => w.write t
  | indent, w => w.indent
  | enter, w => w.deepen
  | leave, w => { w with depth := w.depth - 1 }

def applyAll (as : List Act) (w : Writer) : Writer :=
  as.foldl (fun w a => a.apply w) w

def line (t : Text) : List Act :=
  [indent, write t, write ['\n']]

def firstLine (header : Text) : List Act :=
  line (header ++ " \x7b".toList) ++ [enter]

def lastLine : List Act :=
  leave :: line "\x7d"

def furtherLines : List Text → List Act
  | [] => []
  | t :: rest =>
      write ['\n'] :: indent :: write (Writer.gutter rest.isEmpty t) :: furtherLines rest

def comment (t : Text) : List Act :=
  match Writer.commentParts t with
  | [] => []
  | first :: rest => [indent, write "/*", write first] ++ furtherLines rest ++ [write "*/\n"]

def property (name type : Text) (optional : Bool) : List Act :=
  line (memberText name type optional ++ [';'])

def prop (p : Text × PropEntry) : List Act :=
  (match p.2.doc with
    | some doc => comment doc
    | none => []) ++ property p.1 p.2.type true

end Act

namespace Step

mutual

/-- The actions of a step. -/
def actions : Step → List Act
  | line t => Act.line t
  | newline => [.write ['\n']]
  | openBlock h => Act.firstLine h
  | closeBlock => Act.lastLine
  | property n t o => Act.property n t o
  | comment t => Act.comment t
  | declareModule n body =>
      Act.firstLine (moduleHeader n) ++ actionsAll body ++ Act.lastLine
  | importAll a s body => Act.line (importLine a s) ++ actionsAll body
  | interface n props =>
      Act.firstLine (interfaceHeader n) ++ props.entries.flatMap Act.prop ++
        Act.lastLine
  | exportDefault body => [.indent, .write "export default "] ++ actionsAll body
  | classDecl n b p body =>
      [.write (classHeader n b p), .write ['\n'], .enter] ++ actionsAll body ++
        Act.lastLine

/-- The actions of steps one after the other. -/
def actionsAll : List Step → List Act
  | [] => []
  | s :: rest => actions s ++ actionsAll rest

end

end Step

/-!
# A run by its actions
-/

namespace Act

theorem applyAll_append (as bs : List Act) (w : Writer) :
    applyAll (as ++ bs) w = applyAll bs (applyAll as w) := by
  rw [applyAll, List.foldl_append]
  rfl

theorem applyAll_line (t : Text) (w : Writer) : applyAll (line t) w = w.line t := rfl

theorem applyAll_firstLine (header : Text) (w : Writer) :
    applyAll (firstLine header) w = w.openBlock header := rfl

theorem applyAll_lastLine (w : Writer) : applyAll lastLine w = w.closeBlock := rfl

theorem applyAll_furtherLines (ts : List Text) (w : Writer) :
    applyAll (furtherLines ts) w = w.commentLines ts := by
  induction ts generalizing w with
  | nil =>
      rfl
  | cons t rest ih =>
      rw [Writer.commentLines, ← ih]
      rfl

theorem applyAll_comment (t : Text) (w : Writer) : applyAll (comment t) w = w.comment t := by
  unfold comment Writer.comment
  cases Writer.commentParts t with
  | nil =>
      rfl
  | cons first rest =>
      dsimp only
      rw [applyAll_append, applyAll_append, applyAll_furtherLines]
      rfl

theorem applyAll_prop (p : Text × PropEntry) (w : Writer) :
    applyAll (prop p) w = Step.writeProp w p := by
  unfold prop Step.writeProp
  cases p.2.doc with
  | none =>
      rfl
  | some doc =>
      rw [applyAll_append, applyAll_comment]
      rfl

theorem applyAll_props (ps : List (Text × PropEntry)) (w : Writer) :
    applyAll (ps.flatMap prop) w = ps.foldl Step.writeProp w := by
  induction ps generalizing w with
  | nil =>
      rfl
  | cons p rest ih =>
      rw [List.flatMap_cons, applyAll_append, applyAll_prop, ih, List.foldl_cons]

end Act

namespace Step

open Act

mutual

theorem applyAll_actions (s : Step) (w : Writer) : applyAll s.actions w = run s w := by
  cases s with
  | line t =>
      rfl
  | newline =>
      rfl
  | openBlock h =>
      rfl
  | closeBlock =>
      rfl
  | property n t o =>
      rfl
  | comment t =>
      exact applyAll_comment t w
  | declareModule n body =>
      rw [actions, applyAll_append, applyAll_append, applyAll_firstLine,
        applyAll_actionsAll body, applyAll_lastLine, run]
  | importAll a s body =>
      rw [actions, applyAll_append, applyAll_line, applyAll_actionsAll body, run]
  | interface n props =>
      rw [actions, applyAll_append, applyAll_append, applyAll_firstLine, applyAll_props,
        applyAll_lastLine, run, writeInterface]
  | exportDefault body =>
      rw [actions, applyAll_append, applyAll_actionsAll body, run]
      rfl
  | classDecl n b p body =>
      rw [actions, applyAll_append, applyAll_append, applyAll_actionsAll body,
        applyAll_lastLine, run]
      rfl

theorem applyAll_actionsAll (ss : List Step) (w : Writer) :
    applyAll (actionsAll ss) w = runAll ss w := by
  cases ss with
  | nil =>
      rfl
  | cons s rest =>
      rw [actionsAll, applyAll_append, applyAll_actions s, applyAll_actionsAll rest, runAll]

end

theorem actionsAll_append (p q : List Step) :
    actionsAll (p ++ q) = actionsAll p ++ actionsAll q := by
  induction p with
  | nil =>
      rfl
  | cons s rest ih =>
      rw [List.cons_append, actionsAll, actionsAll, ih, List.append_assoc]

end Step

/-!
# The course of a run
-/

namespace Act

@[simp] theorem unit_applyAll (as : List Act) (w : Writer) :
    (applyAll as w).unit = w.unit := by
  induction as generalizing w with
  | nil =>
      rfl
  | cons a rest ih =>
      have happly : (a.apply w).unit = w.unit := by
        cases a <;> rfl
      exact (ih (a.apply w)).trans happly

theorem output_prefix_applyAll (as : List Act) (w : Writer) :
    w.output <+: (applyAll as w).output := by
  induction as generalizing w with
  | nil =>
      exact List.prefix_rfl
  | cons a rest ih =>
      have happly : w.output <+: (a.apply w).output := by
        cases a with
        | write t =>
            exact List.prefix_append _ _
        | indent =>
            exact List.prefix_append _ _
        | enter =>
            exact List.prefix_rfl
        | leave =>
            exact List.prefix_rfl
      exact happly.trans (ih (a.apply w))

/-- The writers that a writer passes through on the way of some actions. -/
def Passes (as : List Act) (w v : Writer) : Prop :=
  ∃ done, done <+: as ∧ v = applyAll done w

theorem passes_last (as : List Act) (w : Writer) : Passes as w (applyAll as w) :=
  ⟨as, List.prefix_rfl, rfl⟩

theorem Passes.append {as : List Act} {w v : Writer} (h : Passes as w v)
    (bs : List Act) : Passes (as ++ bs) w v := by
  rcases h with ⟨done, hdone, hv⟩
  exact ⟨done, hdone.trans (List.prefix_append as bs), hv⟩

theorem Passes.behind {bs : List Act} {w v : Writer} (as : List Act)
    (h : Passes bs (applyAll as w) v) : Passes (as ++ bs) w v := by
  rcases h with ⟨done, hdone, hv⟩
  refine ⟨as ++ done, (List.prefix_append_right_inj as).mpr hdone, ?_⟩
  rw [hv, applyAll_append]

end Act

namespace Step

open Act

mutual

theorem passes_of_mem_course {s : Step} {w v : Writer} (h : v ∈ s.course w) :
    Passes s.actions w v := by
  -- the last writer of every step is the one that the step ends with; a step around a body
  -- passes through those of the body before it
  have hrun : v = run s w → Passes s.actions w v := by
    rintro rfl
    rw [← applyAll_actions]
    exact passes_last s.actions w
  cases s with
  | declareModule n body =>
      simp only [course, List.mem_append, List.mem_singleton] at h
      rcases h with h | h
      · exact ((passes_of_mem_courseAll h).behind (firstLine (moduleHeader n))).append lastLine
      · exact hrun h
  | importAll a s body =>
      simp only [course, List.mem_append, List.mem_singleton] at h
      rcases h with h | h
      · exact (passes_of_mem_courseAll h).behind (Act.line (importLine a s))
      · exact hrun h
  | exportDefault body =>
      simp only [course, List.mem_append, List.mem_singleton] at h
      rcases h with h | h
      · exact (passes_of_mem_courseAll h).behind [.indent, .write "export default "]
      · exact hrun h
  | classDecl n b p body =>
      simp only [course, List.mem_append, List.mem_singleton] at h
      rcases h with h | h
      · exact ((passes_of_mem_courseAll h).behind
          [.write (classHeader n b p), .write ['\n'], .enter]).append lastLine
      · exact hrun h
  | _ =>
      simp only [course, List.mem_singleton] at h
      exact hrun h

/-- The writers after each step of a program lie on the way of its actions. -/
theorem passes_of_mem_courseAll {p : List Step} {w v : Writer} (h : v ∈ courseAll p w) :
    Passes (actionsAll p) w v := by
  cases p with
  | nil =>
      rw [courseAll] at h
      cases h
  | cons s rest =>
      rw [courseAll] at h
      rw [actionsAll]
      rcases List.mem_append.mp h with h | h
      · exact (passes_of_mem_course h).append (actionsAll rest)
      · rw [← applyAll_actions] at h
        exact (passes_of_mem_courseAll h).behind s.actions

end

end Step

end ComponentDecl
