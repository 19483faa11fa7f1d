import ComponentDecl.Text

/-!
# Positions

A mark is a position in a source: a byte offset, and a line and a column that count
from one, the column in bytes.  Marks move over text.
-/

namespace ComponentDecl

/-- A position in a source. -/
structure Mark where
  byte : Nat
  line : Nat
  column : Nat
  deriving DecidableEq, Repr

namespace Mark

def origin : Mark := ⟨0, 1, 1⟩

def step (m : Mark) (c : Char) : Mark :=
  if c = '\n' then ⟨m.byte + c.utf8Size, m.line + 1, 1⟩
  else ⟨m.byte + c.utf8Size, m.line, m.column + c.utf8Size⟩

def after (m : Mark) (t : Text) : Mark :=
  t.foldl step m

@[simp] theorem after_nil (m : Mark) : m.after [] = m := rfl

@[simp] theorem after_cons (m : Mark) (c : Char) (t : Text) :
    m.after (c :: t) = (m.step c).after t := rfl

theorem after_append (m : Mark) (s t : Text) :
    m.after (s ++ t) = (m.after s).after t :=
  List.foldl_append

theorem byte_step (m : Mark) (c : Char) : (m.step c).byte = m.byte + c.utf8Size := by
  unfold step
  split <;> rfl

theorem byte_after (m : Mark) (t : Text) : (m.after t).byte = m.byte + Text.bytes t := by
  induction t generalizing m with
  | nil => rfl
  | cons c rest ih => rw [after_cons, ih, byte_step, Text.bytes_cons, Nat.add_assoc]

end Mark

/-- A stretch of a source: its first byte, the byte after its last, and the line and
column of its start. -/
structure Span where
  start : Nat
  stop : Nat
  line : Nat
  column : Nat
  deriving DecidableEq, Repr

namespace Span

def ofText (m : Mark) (t : Text) : Span :=
  ⟨m.byte, m.byte + Text.bytes t, m.line, m.column⟩

end Span
end ComponentDecl
