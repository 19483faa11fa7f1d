import ComponentDecl.Parse.Basic

/-!
# The grammar as a record of parsers

Expressions, statements, patterns and markup contain each other.  A grammar holds
one parser for each of them; the modules of the grammar describe a construct in
terms of a grammar for the constructs inside it.
-/

namespace ComponentDecl
namespace Parse

/-- What may follow the expression that is being read. -/
structure Setting where
  /-- An automatic semicolon may follow. -/
  semicolons : Bool
  /-- The operator `in` may not be read as part of it. -/
  withoutIn : Bool
  /-- The operators `++` and `--` may not be read behind its operand. -/
  withoutUpdate : Bool
  /-- It may turn out to be a pattern. -/
  cover : Bool

namespace Setting

def inner : Setting := ⟨false, false, false, false⟩

def covering : Setting := ⟨false, false, false, true⟩

def ending : Setting := ⟨true, false, false, false⟩

/-- The same place, with all suffixes allowed. -/
def free (s : Setting) : Setting := { s with withoutUpdate := false }

/-- The same place for a part that is an expression in any case. -/
def firm (s : Setting) : Setting := { s with withoutUpdate := false, cover := false }

end Setting

/-- Parsers for the constructs that contain each other. -/
structure Grammar where
  /-- Binary expressions of operators of at least the given strength. -/
  binary : Setting → Nat → Parse Item
  operand : Setting → Parse Item
  /-- Names, literals and bracketed expressions, with members and calls. -/
  chain : Parse Item
  pattern : Parse Item
  object : Parse Item
  /-- Elements of markup, after their opening mark. -/
  element : Item → Parse Item
  statement : Parse Item

namespace Grammar

def empty : Grammar where
  binary _ _ := failure
  operand _ := failure
  chain := failure
  pattern := failure
  object := failure
  element _ := failure
  statement := failure

end Grammar

variable (g : Grammar)

/-!
# Constructs built from the record alone
-/

/-- One expression, without commas. -/
def expression (s : Setting) : Parse Item :=
  g.binary s.free 0

/-- Further expressions after commas, as one sequence with the first. -/
def sequence (s : Setting) (first : Item) : Parse Item := do
  let more ← whileSees (do return !(s.semicolons && (← seesInserted true)) && (← sees "," false)) do
    return [← mark "," false, ← expression g s]
  if more.isEmpty then return first
  else return Item.node .sequenceExpression (first :: more)

def expressions (s : Setting) : Parse Item := do
  sequence g s (← expression g s)

def parenthesized : Parse Item := do
  return Item.node .parenthesizedExpression
    [← mark "(" true, ← expressions g .inner, ← mark ")" false]

def spread (s : Setting) : Parse Item := do
  return Item.node .spreadElement [← mark "..." true, ← expression g s]

def expressionOrSpread (s : Setting) : Parse Item := do
  if ← sees "..." true then spread g s else expression g s

def arguments : Parse Item := do
  let o ← mark "(" true
  let es ← listed ")" (expressionOrSpread g .inner)
  return Item.node .arguments (o :: es ++ [← mark ")" true])

/-- Statements up to a place that `stop` recognises. -/
def statements (stop : Text → Bool) : Parse (List Item) :=
  whileSees (do return !stop (← next true)) do
    let s ← g.statement
    if s.endsInBrace then noHtmlComment
    return [s]

def atBrace (t : Text) : Bool :=
  match t with
  | [] => true
  | c :: _ => c == '}'

/-- Statements in braces.  The block includes an automatic semicolon after it; the
argument tells from whether the block is empty whether an operator could follow it. -/
def blockWhere (operators : Bool → Bool) : Parse Item := do
  let o ← mark "\x7b" true
  let body ← statements g atBrace
  let c ← mark "\x7d" true
  let tail ← optionalInserted (operators body.isEmpty)
  return Item.node .statementBlock (o :: body ++ c :: tail)

def block (operators : Bool) : Parse Item :=
  blockWhere g fun _ => operators

def initializer (s : Setting) : Parse (List Item) := do
  return [← mark "=" false, (← expression g s).inField .value]

def seesAssign : Parse Bool := do
  return Lexeme.operator? (← next false) == some "="

end Parse
end ComponentDecl
