import ComponentDecl.Notice
import ComponentDecl.Parse.Flaw
import ComponentDecl.Syntax.Cursor
import ComponentDecl.Text.Blank

/-!
# Modules

A module is a source together with its syntax tree, which has no mistakes.  A source
with a mistake is refused with an error that says where the first mistake is.
-/

namespace ComponentDecl

inductive ParseError where
  | invalidSyntax (span : Span) (message : Text)
  /-- There is no grammar to parse by. -/
  | grammarUnavailable (reason : Text)
  /-- The parser gave no tree. -/
  | noTree
  deriving DecidableEq, Repr

namespace ParseError

def message : ParseError → Text
  | invalidSyntax s m =>
      "Invalid syntax at ".toList ++ Text.ofNat s.line ++ ':' :: Text.ofNat s.column ++
        ": ".toList ++ m
  | grammarUnavailable r => "JavaScript grammar unavailable: ".toList ++ r
  | noTree => "Parser produced no syntax tree"

def span? : ParseError → Option Span
  | invalidSyntax s _ => some s
  | _ => none

/-- What is said at the place of the error. -/
def label : ParseError → Text
  | invalidSyntax _ m => m
  | e => e.message

end ParseError

/-!
# The first mistake
-/

namespace Cursor

/-- The first line of a text, without the carriage return at its end. -/
def firstLine (t : Text) : Text :=
  match t.span (· != '\n') with
  | (line, _ :: _) => if line.getLast? == some '\r' then line.dropLast else line
  | (line, []) => line

/-- What is said of a stretch of text that does not fit. -/
def unexpected (t : Text) : Text :=
  let line := firstLine t
  if line.isEmpty then "unexpected end of input"
  else "unexpected \x60".toList ++ Text.trim line ++ ['\x60']

def mistakeError (c : Cursor) : ParseError :=
  match c.tree with
  | .missing _ name => .invalidSyntax c.span ("missing \x60".toList ++ name ++ ['\x60'])
  | _ => .invalidSyntax c.span (unexpected c.text)

mutual

/-- The first mistake in the tree at a cursor.  Trees without mistakes are not
searched. -/
def firstErrorIn (c : Cursor) : Tree → Option ParseError
  | .missing _ _ => some c.mistakeError
  | .leaf _ k _ => if k == .error then some c.mistakeError else none
  | .branch f k cs =>
      if k == .error then some c.mistakeError
      else if Tree.hasMistake (.branch f k cs) then firstErrorInRow c [] c.start cs
      else none
  | _ => none

def firstErrorInRow (parent : Cursor) (left : List Tree) (m : Mark) :
    List Tree → Option ParseError
  | [] => none
  | t :: rest =>
      match firstErrorIn (.child parent left m t) t with
      | some e => some e
      | none => firstErrorInRow parent (t :: left) (m.after t.text) rest

end

def firstError? (c : Cursor) : Option ParseError :=
  firstErrorIn c c.tree

end Cursor

/-!
# Parsing
-/

structure Module where
  source : Text
  tree : Tree

namespace Module

def root (m : Module) : Cursor :=
  .root m.tree

def shown (m : Module) : Text :=
  "SyntaxTree \x7b root: ".toList ++ m.root.label ++ " \x7d".toList

def parse (source : Text) : Except ParseError Module :=
  match (Cursor.root (Parse.tree source)).firstError? with
  | some e => .error e
  | none => .ok ⟨source, Parse.tree source⟩

def parseLogged (source : Text) : Logged (Except ParseError Module) :=
  match parse source with
  | .error e => pure (.error e)
  | .ok m => do
      Logged.tell (.parsed (Text.bytes source))
      return .ok m

end Module
end ComponentDecl
