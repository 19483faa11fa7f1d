import ComponentDecl.Text.Blank
import ComponentDecl.Validator

/-!
# Writing declarations

A writer holds the text written so far and how many blocks are open.  Each line starts
with one unit of indentation for every open block.
-/

namespace ComponentDecl

/-- The text written so far, the number of open blocks and the unit of indentation. -/
structure Writer where
  output : Text
  depth : Nat
  unit : Text
  deriving DecidableEq, Repr

namespace Writer

def fresh (unit : Text) : Writer := ⟨[], 0, unit⟩

def write (t : Text) (w : Writer) : Writer :=
  { w with output := w.output ++ t }

def indent (w : Writer) : Writer :=
  w.write (Text.times w.depth w.unit)

def newline (w : Writer) : Writer :=
  w.write ['\n']

def line (t : Text) (w : Writer) : Writer :=
  ((w.indent).write t).newline

def deepen (w : Writer) : Writer :=
  { w with depth := w.depth + 1 }

def openBlock (header : Text) (w : Writer) : Writer :=
  (w.line (header ++ " \x7b".toList)).deepen

/-- Writes the last line of a block.  Where no block is open, the line is not
indented. -/
def closeBlock (w : Writer) : Writer :=
  { w with depth := w.depth - 1 }.line "\x7d"

def property (name type : Text) (optional : Bool) (w : Writer) : Writer :=
  w.line (memberText name type optional ++ [';'])

/-!
# Comments

The first line of a comment stands as it is.  Further lines lose their indentation and
get that of the writer; lines that start with a star, and an empty last line, are set
off by one space.
-/

def gutter (last : Bool) (line : Text) : Text :=
  let body := Text.trimStart line
  if body.head? == some '*' || (last && body.isEmpty) then ' ' :: body else body

def commentLines (w : Writer) : List Text → Writer
  | [] => w
  | line :: rest =>
      commentLines ((w.newline.indent).write (gutter rest.isEmpty line)) rest

def commentParts (t : Text) : List Text :=
  (Text.lines t).map Text.trimReturns

def comment (t : Text) (w : Writer) : Writer :=
  match commentParts t with
  | [] => w
  | first :: rest =>
      ((((w.indent).write "/*").write first).commentLines rest).write "*/\n"

end Writer
end ComponentDecl
