import ComponentDecl.Module
import ComponentDecl.Text.Width

/-!
# Error reports

A report shows an error with the lines of the source around its place.  A label is
drawn under a stretch of one line, or down the margin of several lines.  Places in a
report count characters, not bytes.
-/

namespace ComponentDecl
namespace Report

/-!
# Colours
-/

def paint (code t : Text) : Text :=
  "\x1b[".toList ++ code ++ 'm' :: t ++ "\x1b[0m".toList

def red (t : Text) : Text := paint "31" t

/-- The frame and the numbered margin. -/
def frame (t : Text) : Text := paint "38;5;246" t

/-- The margin without numbers. -/
def faint (t : Text) : Text := paint "38;5;240" t

/-- The text outside the label. -/
def dim (t : Text) : Text := paint "38;5;249" t

/-- The label's dashes, each painted alone. -/
def dashes (n : Nat) : Text := Text.times n (red "─")

def spaces (n : Nat) : Text := List.replicate n ' '

/-!
# Lines of the source
-/

/-- A line with its line break, and the number of characters before it. -/
structure Line where
  offset : Nat
  text : Text

namespace Line

def stop (l : Line) : Nat :=
  l.offset + l.text.length

end Line

def isBreak (c : Char) : Bool :=
  (0x0A ≤ c.toNat && c.toNat ≤ 0x0D) || c.toNat == 0x85 || c.toNat == 0x2028 || c.toNat == 0x2029

/-- The lines of a text, given the characters of the first line read so far, the
latest first.  A carriage return and a line feed are one break, and nothing after the
last break is no line. -/
def linesFrom (offset : Nat) (current : Text) : Text → List Line
  | [] => if current.isEmpty then [] else [⟨offset, current.reverse⟩]
  | c :: rest =>
      let line := c :: current
      if isBreak c && !(c == '\r' && rest.head? == some '\n') then
        ⟨offset, line.reverse⟩ :: linesFrom (offset + line.length) [] rest
      else linesFrom offset line rest

def sourceLines (source : Text) : List Line :=
  linesFrom 0 [] source

/-- The number of the line that holds a place: the last that starts no later. -/
def lineAt (lines : List Line) (place : Nat) : Nat :=
  (lines.takeWhile fun l => l.offset ≤ place).length - 1

/-- The characters of a line as they are drawn, each with the cells it fills.  Tabs
reach to the next multiple of four, and other blanks are spaces. -/
def cells (l : Line) : List (Char × Nat) :=
  (Text.trimEnd l.text).mapIdx fun column c =>
    if c == '\t' then (' ', (column / 4 + 1) * 4 - column)
    else if Text.isBlank c then (' ', 1)
    else (c, Text.width c)

/-- The widths of the first `n` columns of a line and of the void behind it. -/
def widths (l : Line) (n : Nat) : List Nat :=
  ((cells l).map Prod.snd ++ List.replicate n 1).take n

/-!
# Drawing
-/

structure Label where
  start : Nat
  stop : Nat
  text : Text

namespace Label

def covers (b : Label) (place : Nat) : Bool :=
  b.start ≤ place && place < b.stop

def lineText (b : Label) (l : Line) : Text :=
  ((cells l).mapIdx fun column (c, n) =>
    let drawn := if b.covers (l.offset + column) then red [c] else dim [c]
    if c == ' ' then Text.times n drawn else drawn).flatten ++ ['\n']

def numbered (size k : Nat) : Text :=
  let digits := Text.ofNat (k + 1)
  ' ' :: frame (spaces (size - digits.length) ++ digits ++ " │".toList) ++ [' ']

def unnumbered (size : Nat) (bar : Text) : Text :=
  ' ' :: faint (spaces (size + 1) ++ bar) ++ [' ']

/-- The cells under a line: a bar along the label with a junction in its middle. -/
def underline (b : Label) (l : Line) (middle : Nat) (ws : List Nat) : Text :=
  (ws.mapIdx fun column n =>
    if b.covers (l.offset + column) then
      (if column == middle && 0 < n then red "┬" ++ dashes (n - 1) else dashes n)
    else spaces n).flatten

def leader (middle : Nat) (ws : List Nat) : Text :=
  (ws.mapIdx fun column n =>
    if column < middle then spaces n
    else if column == middle && 0 < n then red "╰" ++ dashes (n - 1)
    else dashes n).flatten

def inLine (b : Label) (size k : Nat) (l : Line) : Text :=
  if l.stop < b.stop then unnumbered size "│" ++ ['\n']
  else
    let middle := (b.start + b.stop) / 2 - l.offset
    let ws := widths l (b.stop - l.offset + 2)
    numbered size k ++ b.lineText l ++
      unnumbered size "│" ++ b.underline l middle ws ++ '\n' ::
      unnumbered size "│" ++ leader middle ws ++ ' ' :: b.text ++ ['\n']

/-- The lines below the first of a label: all but the last are left out. -/
def belowFirst (b : Label) (size k : Nat) (skipped : Bool) : List Line → Text
  | [] => []
  | l :: rest =>
      if l.offset ≤ b.stop - 1 && b.stop - 1 < l.stop then
        let cellCount := (widths l (l.text.length + 2)).sum
        numbered size k ++ red "├" ++ red "─" ++ red "▶" ++ red " " ++ b.lineText l ++
          unnumbered size "│" ++ red "│" ++ "   ".toList ++ spaces cellCount ++ '\n' ::
          unnumbered size "│" ++ red "╰" ++ dashes 3 ++ dashes cellCount ++ ' ' :: b.text ++
          '\n' :: belowFirst b size (k + 1) skipped rest
      else if skipped then belowFirst b size (k + 1) skipped rest
      else
        unnumbered size "┆" ++ red "┆" ++ "   \n".toList ++ belowFirst b size (k + 1) true rest

def overLines (b : Label) (size k : Nat) (l : Line) (below : List Line) : Text :=
  numbered size k ++ red "╭" ++ red "─" ++ red "▶" ++ red " " ++ b.lineText l ++
    b.belowFirst size (k + 1) false below

end Label

def render (title name source : Text) (b : Label) : Text :=
  let head := red "Error:" ++ ' ' :: title ++ ['\n']
  let lines := sourceLines source
  let first := lineAt lines b.start
  let last := lineAt lines (b.stop - 1)
  match lines.drop first with
  | [] => head
  | l :: below =>
      -- a label that reaches past the source is not drawn
      if source.length < b.start || source.length < b.stop - 1 then head
      else
        let size := (Text.ofNat (last + 1)).length
        let place :=
          ':' :: Text.ofNat (first + 1) ++ ':' :: Text.ofNat (b.start - l.offset + 1)
        head ++
          spaces (size + 2) ++ frame "╭" ++ frame "─" ++ frame "[" ++ name ++ place ++ frame "]" ++
          '\n' :: spaces (size + 2) ++ frame "│" ++ '\n' ::
          (if first == last then b.inLine size first l
           else b.overLines size first l (below.take (last - first))) ++
          frame (Text.times (size + 2) "─" ++ "╯".toList) ++ ['\n']

end Report

/-!
# Reports of parse errors
-/

/-- The number of characters in the first `n` bytes of a text, if the last of them is
whole. -/
def charsIn? : Text → Nat → Option Nat
  | _, 0 => some 0
  | [], _ + 1 => none
  | c :: rest, n + 1 =>
      if c.utf8Size ≤ n + 1 then (charsIn? rest (n + 1 - c.utf8Size)).map (· + 1) else none

/-- The place in characters for a place in bytes.  What is past the end or inside a
character is taken for the end. -/
def charOffset (source : Text) (byte : Nat) : Nat :=
  (charsIn? source byte).getD source.length

namespace ParseError

/-- The places that the label of an error stands under.  A label covers at least one
place; an error without a span is shown at the end of the source. -/
def labelRange (source : Text) (e : ParseError) : Nat × Nat :=
  let (start, stop) :=
    match e.span? with
    | some s => (charOffset source s.start, charOffset source s.stop)
    | none => (source.length - 1, source.length)
  (start, max stop (start + 1))

def report (e : ParseError) (name source : Text) : Text :=
  let (start, stop) := e.labelRange source
  Report.render e.message name source ⟨start, stop, e.label⟩

end ParseError
end ComponentDecl
