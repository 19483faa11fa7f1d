import ComponentDecl.Proofs.Depth

/-!
# Indentation

What a program writes is laid out before it runs: texts that stand as they are, and places
that are indented, each inside some number of blocks of the program.  The depth at which a
run starts changes the width of these places and nothing else.
-/

namespace ComponentDecl

/-- A part of what a program writes. -/
inductive Slot where
  /-- A text that stands as it is. -/
  | verbatim (t : Text)
  /-- An indentation inside so many blocks of the program. -/
  | pad (blocks : Nat)
  deriving DecidableEq, Repr

namespace Slot

/-- The text of a part in a run that starts at a depth. -/
def text (unit : Text) (depth : Nat) : Slot → Text
  | verbatim t => t
  | pad n => Text.times (depth + n) unit

/-- What stands in front of a part if a text is inserted at every indentation. -/
def inserted (t : Text) : Slot → Text
  | verbatim _ => []
  | pad _ => t

end Slot

/-- The parts that actions write, the first of them inside so many blocks. -/
def Act.layout : Nat → List Act → List Slot
  | _, [] => []
  | n, write t :: rest => .verbatim t :: layout n rest
  | n, indent :: rest => .pad n :: layout n rest
  | n, enter :: rest => layout (n + 1) rest
  | n, leave :: rest => layout (n - 1) rest

/-- The parts that a program writes.  They depend on the program alone. -/
def Step.layout (p : List Step) : List Slot :=
  Act.layout 0 (actionsAll p)

/-!
# Runs write their layout
-/

theorem Act.output_applyAll {as : List Act} {n : Nat} (h : Fits n as) {w : Writer}
    {d : Nat} (hd : w.depth = d + n) :
    (applyAll as w).output = w.output ++ (layout n as).flatMap (Slot.text w.unit d) := by
  induction as generalizing n w with
  | nil =>
      exact (List.append_nil w.output).symm
  | cons a rest ih =>
      cases a with
      | write t =>
          rw [fits_write] at h
          have hrest := ih h (w := w.write t) hd
          rw [layout, List.flatMap_cons, ← List.append_assoc]
          exact hrest
      | indent =>
          rw [fits_indent] at h
          have hrest := ih h (w := w.indent) hd
          rw [layout, List.flatMap_cons, ← List.append_assoc]
          show _ = w.output ++ Text.times (d + n) w.unit ++ _
          rw [← hd]
          exact hrest
      | enter =>
          rw [fits_enter] at h
          have hdeep : w.deepen.depth = d + (n + 1) := by
            show w.depth + 1 = d + (n + 1)
            omega
          exact ih h hdeep
      | leave =>
          -- a block is open, so that leaving one takes exactly one off the depth
          rcases fits_leave.mp h with ⟨m, rfl, _, hrest⟩
          have hshallow : (leave.apply w).depth = d + m := by
            show w.depth - 1 = d + m
            omega
          exact ih hrest hshallow

theorem Step.Matched.output_runAll {p : List Step} (hp : Matched p) (w : Writer) :
    (runAll p w).output = w.output ++ (layout p).flatMap (Slot.text w.unit w.depth) := by
  rw [← applyAll_actionsAll]
  exact Act.output_applyAll hp.fits rfl

/-!
# Shifting
-/

theorem Text.times_add (m n : Nat) (t : Text) : times (m + n) t = times m t ++ times n t := by
  rw [times, ← List.replicate_append_replicate, List.flatten_append]
  rfl

theorem Slot.text_add (unit : Text) (d k : Nat) (s : Slot) :
    s.text unit (d + k) = s.inserted (Text.times k unit) ++ s.text unit d := by
  cases s with
  | verbatim t =>
      rfl
  | pad n =>
      show Text.times (d + k + n) unit = Text.times k unit ++ Text.times (d + n) unit
      rw [← Text.times_add]
      congr 1
      omega

/-- A program whose blocks match writes its layout.  Started deeper, it writes the same with
the further indentation inserted at the places that are indented and nowhere else. -/
theorem indentation_shifts_uniformly {p : List Step} (hp : Step.Matched p) (unit : Text)
    (d k : Nat) (old old' : Text) :
    (Step.runAll p ⟨old, d, unit⟩).output =
        old ++ (Step.layout p).flatMap (fun s => s.text unit d) ∧
      (Step.runAll p ⟨old', d + k, unit⟩).output =
        old' ++ (Step.layout p).flatMap
          (fun s => s.inserted (Text.times k unit) ++ s.text unit d) := by
  refine ⟨hp.output_runAll ⟨old, d, unit⟩, ?_⟩
  rw [hp.output_runAll ⟨old', d + k, unit⟩]
  congr 2
  funext s
  exact Slot.text_add unit d k s

theorem indentation_shifts_uniformly_nested :
    Step.Matched nestedProgram ∧
      (Step.runAll nestedProgram ⟨"a", 0, "\t"⟩).output =
        "a".toList ++ (Step.layout nestedProgram).flatMap (fun s => s.text "\t" 0) ∧
      (Step.runAll nestedProgram ⟨"b", 0 + 2, "\t"⟩).output =
        "b".toList ++ (Step.layout nestedProgram).flatMap
          (fun s => s.inserted (Text.times 2 "\t") ++ s.text "\t" 0) := by
  have hmatched : Step.Matched nestedProgram := by decide
  exact ⟨hmatched, indentation_shifts_uniformly hmatched "\t" 0 2 "a" "b"⟩

end ComponentDecl
