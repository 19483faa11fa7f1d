import ComponentDecl.Lexeme.Number
import ComponentDecl.Lexeme.Operator
import ComponentDecl.Lexeme.Quoted

/-!
# Pieces

A text that the grammar rejects is still cut into pieces: words, numbers, quoted
texts, operators and single characters.  White space and comments lie between them.
-/

namespace ComponentDecl
namespace Lexeme

/-- A piece of a text: the offsets of its first character and of the one behind it, and
the characters. -/
structure Piece where
  start : Nat
  stop : Nat
  text : Text
  deriving Repr

def Piece.spells (p : Piece) (s : String) : Bool :=
  p.text == s.toList

/-- A template literal without its substitutions being looked at: through the next
backquote that no backslash precedes. -/
def throughBackquote : Text → Option Text
  | [] => none
  | '\x60' :: rest => some rest
  | '\\' :: _ :: rest => throughBackquote rest
  | _ :: rest => throughBackquote rest

/-- Whether a text goes on with a quote or a slash that nothing closes on its line. -/
def isOpen (operand : Bool) : Text → Bool
  | '"' :: _ => true
  | '\'' :: _ => true
  | '/' :: rest => !operand && rest.head? != some '>'
  | _ => false

/-- What follows the first piece of a text.  A slash after an operand divides. -/
def afterPiece (operand : Bool) (t : Text) : Text :=
  match word? t, privateName? t, number? t, string? t, t with
  | some (_, rest), _, _, _, _ => rest
  | _, some (_, rest), _, _, _ => rest
  | _, _, some (_, rest), _, _ => rest
  | _, _, _, some (_, rest), _ => rest
  | _, _, _, _, '\x60' :: rest => (throughBackquote rest).getD rest
  | _, _, _, _, _ =>
      match (if operand then none else regex? t), operator? t with
      | some (_, rest), _ => rest
      | none, some op => if isOpen operand t then t.dropWhile (· != '\n') else t.drop op.length
      | none, none => if isOpen operand t then t.dropWhile (· != '\n') else t.tail

def endsOperand (t : Text) : Bool :=
  match t.head?, t.getLast? with
  | some c, some d => isWordChar c || d == ')' || d == ']' || d == '}' || c == '"' || c == '\''
  | _, _ => false

def piecesWithin : Nat → Nat → Bool → Text → List Piece
  | 0, _, _, _ => []
  | fuel + 1, offset, operand, t =>
      let (_, rest) := trivia true t
      if rest.isEmpty then []
      else
        let start := offset + (t.length - rest.length)
        let after := afterPiece operand rest
        let size := rest.length - after.length
        let text := rest.take size
        ⟨start, start + size, text⟩ ::
          piecesWithin fuel (start + size) (endsOperand text || text == "<") after

def pieces (t : Text) : List Piece :=
  piecesWithin (t.length + 1) 0 false t

end Lexeme
end ComponentDecl
