import ComponentDecl.Lexeme.Word

/-!
# Operators

After an operand the longest operator at the head of the text is taken.  The words
`in` and `instanceof` are operators there even if letters follow.
-/

namespace ComponentDecl
namespace Lexeme

/-- The operators between two operands, with their strength.  An operator of greater
strength binds tighter. -/
def binaryOperators : List (Text × Nat) :=
  [("&&", 2), ("||", 1), (">>", 9), (">>>", 9), ("<<", 9), ("&", 5), ("^", 4), ("|", 3),
   ("+", 10), ("-", 10), ("*", 11), ("/", 11), ("%", 11), ("**", 12), ("<", 7), ("<=", 7),
   ("==", 6), ("===", 6), ("!=", 6), ("!==", 6), (">=", 7), (">", 7), ("??", 0),
   ("instanceof", 7), ("in", 7)]

def assignmentOperators : List Text :=
  List.map String.toList
    ["+=", "-=", "*=", "/=", "%=", "^=", "&=", "|=", ">>=", ">>>=", "<<=", "**=", "&&=",
     "||=", "??="]

/-- All operators and marks that can follow an operand, longer ones first. -/
def operators : List Text :=
  List.map String.toList
  ["instanceof", ">>>=", "===", "!==", "**=", "<<=", ">>=", ">>>", "&&=", "||=", "??=", "...",
   "=>", "==", "!=", "<=", ">=", "&&", "||", "??", "?.", "++", "--", "+=", "-=", "*=", "/=",
   "%=", "&=", "|=", "^=", "<<", ">>", "**", "in", "=", "!", "<", ">", "&", "|", "?", "+",
   "-", "*", "/", "%", "^", ".", ",", ";", ":", "(", ")", "[", "]", "\x7b", "\x7d", "\x60"]

/-- The longest operator at the head of a text.  A question mark and a point before a
digit are two lexemes. -/
def operator? : Text → Option Text
  | '?' :: '.' :: c :: rest =>
      if isDigit c then some "?" else operators.find? (Text.startsWith · ('?' :: '.' :: c :: rest))
  | t => operators.find? (Text.startsWith · t)

/-- Whether an operator can only go on with an operand before it: no statement starts
with it. -/
def onlyContinues (op : Text) : Bool :=
  op == "." || op == "?." || op == "?" || op == "," ||
    (binaryOperators.any (·.1 == op) &&
      !(op == "+" || op == "-" || op == "/" || op == "<"))

end Lexeme
end ComponentDecl
