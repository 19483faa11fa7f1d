import ComponentDecl.Lexeme.Piece

/-!
# Chunks

What stands before a place in a broken source, seen from that place: lexemes, and
closed pairs of brackets as one chunk each.
-/

namespace ComponentDecl
namespace Parse

/-- A lexeme or a closed pair of brackets, by its offsets and its first lexeme. -/
structure Chunk where
  start : Nat
  stop : Nat
  text : Text
  closed : Bool
  deriving Repr

def opens (t : Text) : Bool :=
  t == "(" || t == "[" || t == "\x7b"

def closes (t : Text) : Bool :=
  t == ")" || t == "]" || t == "\x7d"

/-- The chunks of a row of pieces, both from the last to the first.  Inside `depth`
pairs of brackets, the outermost of which ends at `stop`, pieces are passed over. -/
def chunksFrom (depth stop : Nat) : List Lexeme.Piece → List Chunk
  | [] => []
  | p :: rest =>
      match depth with
      | 0 =>
          if closes p.text then chunksFrom 1 p.stop rest
          else ⟨p.start, p.stop, p.text, false⟩ :: chunksFrom 0 stop rest
      | d + 1 =>
          if closes p.text then chunksFrom (d + 2) stop rest
          else if opens p.text then
            if d == 0 then ⟨p.start, stop, p.text, true⟩ :: chunksFrom 0 stop rest
            else chunksFrom d stop rest
          else chunksFrom (d + 1) stop rest

def chunks (ps : List Lexeme.Piece) : List Chunk :=
  chunksFrom 0 0 ps.reverse

namespace Chunk

def keywords : List Text :=
  List.map String.toList
    ["let", "const", "var", "return", "new", "typeof", "void", "delete", "await", "yield",
     "function", "class", "extends", "if", "for", "while", "do", "switch", "try", "throw",
     "import", "export", "async", "static", "case", "with"]

def isEmpty (c : Chunk) : Bool :=
  c.closed && c.text == "(" && c.stop ≤ c.start + 2

def isOperand (c : Chunk) : Bool :=
  (c.closed && !c.isEmpty) || (!c.closed && Lexeme.endsOperand c.text && !keywords.contains c.text && !closes c.text)

def joins (c : Chunk) : Bool :=
  !c.closed && (c.text == "=" || Lexeme.binaryOperators.any (·.1 == c.text) ||
    Lexeme.assignmentOperators.contains c.text)

/-- Whether a chunk goes on with an operand before it: a call or an index. -/
def extends? (c : Chunk) : Bool :=
  c.closed && (c.text == "(" || c.text == "[")

/-- The number of constructs in a row of chunks from the first to the last, operands
joined by operators being one.  The flag tells that an operand stands before the row. -/
def count : Bool → List Chunk → Nat
  | _, [] => 0
  | true, [c] => if c.extends? || c.text == "++" || c.text == "--" then 0 else 1
  | false, [_] => 1
  | true, c :: d :: rest =>
      if c.extends? || c.text == "++" || c.text == "--" then count true (d :: rest)
      else if (c.text == "." || c.text == "?." || c.joins) && d.isOperand then count true rest
      else if (c.text == "@" || c.text == "extends") && d.isOperand then count false (d :: rest)
      else 1 + count c.isOperand (d :: rest)
  | false, c :: d :: rest =>
      if c.text == "function" && d.isOperand then 2 + count false rest
      else
        (if (c.text == "@" || c.text == "extends") && d.isOperand then 0 else 1) +
          count c.isOperand (d :: rest)

/-- The same for a row whose first chunk may be the name of a function. -/
def countAfter (named : Bool) : List Chunk → Nat
  | [] => 0
  | c :: rest => if named then 1 + count false rest else count false (c :: rest)

def endsElement (c : Chunk) (next : Option Chunk) : Bool :=
  c.text == ";" || c.text == "," ||
    (c.closed && c.text == "\x7b" && next.any fun d => d.isOperand || keywords.contains d.text)

/-- The number of constructs that a row of chunks leaves open inside one pair of brackets,
from the first to the last: of the elements before the last one at most two count. -/
def openCount (done : Nat) (comma : Bool) (current : List Chunk) : List Chunk → Nat
  | [] => (if comma then min done 2 + 1 else min done 1) + count false current.reverse
  | c :: rest =>
      if c.endsElement rest.head? then openCount (done + 1) (c.text == ",") [] rest
      else if !c.closed && opens c.text then
        let own := (if comma then min done 2 + 1 else min done 1) + count false current.reverse
        let call := c.text == "\x7b" && current.length > 1 &&
          (current.head?.any fun d => d.extends?) && !(current.any fun d => d.text == "extends")
        own + (if call then 2 else 1) + openCount 0 false [] rest
      else openCount done comma (c :: current) rest

def depth (cs : List Chunk) : Nat :=
  openCount 0 false [] cs

end Chunk
end Parse
end ComponentDecl
