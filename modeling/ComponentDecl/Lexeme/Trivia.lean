import ComponentDecl.Lexeme.Character
import ComponentDecl.Syntax.Tree

/-!
# What stands between lexemes

White space and comments may stand between any two lexemes.  White space becomes
a gap of the tree, a comment a named leaf.
-/

namespace ComponentDecl
namespace Lexeme

/-!
# Comments
-/

/-- The part of a text up to and including the first end mark of a block comment,
and the rest; nothing when there is no end mark. -/
def throughBlockEnd : Text → Option (Text × Text)
  | [] => none
  | '*' :: '/' :: rest => some (['*', '/'], rest)
  | c :: rest => (throughBlockEnd rest).map fun (t, r) => (c :: t, r)

def endsLineComment (c : Char) : Bool :=
  c == '\n' || c == '\r' || isSeparator c

def comment? : Text → Option (Text × Text)
  | '/' :: '/' :: rest =>
      let (line, more) := rest.span fun c => !endsLineComment c
      some ('/' :: '/' :: line, more)
  | '/' :: '*' :: rest =>
      (throughBlockEnd rest).map fun (t, r) => ('/' :: '*' :: t, r)
  | _ => none

/-- The line comment in the manner of HTML at the head of a text, and the rest. -/
def htmlComment? (t : Text) : Option (Text × Text) :=
  if Text.startsWith "<!--" t || Text.startsWith "-->" t then
    some (t.span fun c => !(isLineEnd c || c.toNat == 0))
  else none

/-!
# Trivia

Comments in the manner of HTML are recognised only where no operator and no
automatic semicolon can follow, which the caller knows.
-/

/-- A gap, unless it would be empty. -/
def gap (t : Text) : List Tree :=
  if t.isEmpty then [] else [.gap t]

def commentAhead? (html : Bool) (t : Text) : Option (List Tree × Text) :=
  let (space, rest) := t.span fun c => isSpace c || isSeparator c
  match (if html then htmlComment? rest else none) with
  | some (c, more) => some (gap space ++ [.leaf none .htmlComment c], more)
  | none =>
      let (space, rest) := t.span isGap
      (comment? rest).map fun (c, more) => (gap space ++ [.leaf none .comment c], more)

def triviaWithin (html : Bool) : Nat → Text → List Tree × Text
  | 0, t => ([], t)
  | fuel + 1, t =>
      match commentAhead? html t with
      | some (trees, rest) =>
          let (more, rest) := triviaWithin html fuel rest
          (trees ++ more, rest)
      | none =>
          let (space, rest) := t.span isGap
          (gap space, rest)

def trivia (html : Bool) (t : Text) : List Tree × Text :=
  triviaWithin html (t.length + 1) t

end Lexeme
end ComponentDecl
