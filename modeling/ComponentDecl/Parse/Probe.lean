import ComponentDecl.Lexeme.Piece
import ComponentDecl.Parse.Module

/-!
# Probing a source

How far the grammar can read a source, and what could follow a text if a source went
on after it.
-/

namespace ComponentDecl
namespace Parse

/-!
# Where a source cannot be read further
-/

/-- The offset of the lexeme that does not fit, if the grammar rejects the source. -/
def stuck? (source : Text) : Option Nat :=
  match readProgram source with
  | .ok _ => none
  | .error n =>
      let rest := source.drop (source.length - n)
      some (source.length - (Lexeme.trivia true rest).2.length)

def readsAt (offset : Nat) (source : Text) : Bool :=
  match stuck? source with
  | none => true
  | some n => decide (offset < n)

/-- How much is left at the start of the first statement that cannot be read, after at
most `fuel` statements. -/
def brokenWithin (g : Grammar) : Nat → Text → Nat
  | 0, t => t.length
  | fuel + 1, t =>
      match g.statement t with
      | .ok (_, rest) =>
          if (Lexeme.trivia true rest).2.isEmpty then t.length else brokenWithin g fuel rest
      | .error _ => t.length

def brokenStart (source : Text) : Nat :=
  let n := brokenWithin (grammar (source.length + 2)) (source.length + 1) source
  source.length - (Lexeme.trivia true (source.drop (source.length - n))).2.length

/-!
# What could follow

No semicolon is inserted in front of a no-break space.
-/

/-- A space that lets no semicolon be inserted in front of it. -/
def bar : Char := Char.ofNat 0xA0

/-- What a source holds before an offset, without the white space at its end but with a
line end where a semicolon is inserted. -/
def frontOf (source : Text) (offset : Nat) : Text :=
  let front := ((source.take offset).reverse.dropWhile Lexeme.isGap).reverse
  if Lexeme.insertsSemicolon true (source.drop front.length) then front ++ ['\n'] else front

/-- Whether a source is a program that needs no semicolon at its end. -/
def isWhole (source : Text) : Bool :=
  (stuck? (source ++ [bar])).isNone

/-- Whether the first lexeme of `rest` can follow `front` without a semicolon. -/
def followsDirectly (front rest : Text) : Bool :=
  readsAt (front.length + 1) (front ++ bar :: rest)

def takes (front : Text) (t : String) : Bool :=
  readsAt (front.length + t.length) (front ++ bar :: t.toList)

/-- Whether a text ends with an expression: an operator can follow. -/
def endsExpression (front : Text) : Bool :=
  takes front "% a"

/-- Whether the first lexeme of `rest` can follow `front`.  A semicolon may only be
inserted between an expression and a closing brace. -/
def follows (front rest : Text) : Bool :=
  followsDirectly front rest ||
    (Text.startsWith "\x7d" rest && endsExpression front &&
      readsAt (front.length + 1) (front ++ ' ' :: rest))

def startsEntry (front : Text) : Bool :=
  takes front "var a;" || takes front "static \x7b"

end Parse
end ComponentDecl
