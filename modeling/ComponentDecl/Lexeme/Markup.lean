import ComponentDecl.Lexeme.Trivia
import ComponentDecl.Lexeme.Word

/-!
# Lexemes of markup

Between the tags of an element most characters stand for themselves.  White space
that starts with a line feed belongs to the lexeme that follows it; white space on
one line is text of its own.
-/

namespace ComponentDecl
namespace Lexeme

/-!
# Names and references
-/

/-- A name of an element or attribute with a hyphen in it, and the rest. -/
def hyphenated? : Text → Option (Text × Text)
  | c :: rest =>
      let starts (c : Char) : Bool := isLetter c || c == '_' || c == '$'
      if starts c then
        let (head, rest) := rest.span fun c => starts c || isDigit c
        match rest with
        | '-' :: rest =>
            let (tail, rest) := rest.span fun c => starts c || isDigit c || c == '-'
            some (c :: head ++ '-' :: tail, rest)
        | _ => none
      else none
  | [] => none

def referenceTail (p : Char → Bool) (most : Nat) (t : Text) : Option (Text × Text) :=
  let (ds, rest) := t.span p
  match rest with
  | ';' :: rest => if 1 ≤ ds.length && ds.length ≤ most then some (ds ++ [';'], rest) else none
  | _ => none

/-- A character reference such as `&amp;` at the head of a text, and the rest. -/
def reference? : Text → Option (Text × Text)
  | '&' :: '#' :: 'x' :: rest =>
      (referenceTail isHex 6 rest).map fun (t, r) => (['&', '#', 'x'] ++ t, r)
  | '&' :: '#' :: 'X' :: rest =>
      (referenceTail isHex 6 rest).map fun (t, r) => (['&', '#', 'X'] ++ t, r)
  | '&' :: '#' :: rest =>
      (referenceTail isDigit 5 rest).map fun (t, r) => (['&', '#'] ++ t, r)
  | '&' :: rest =>
      (referenceTail isLetter 30 rest).map fun (t, r) => ('&' :: t, r)
  | _ => none

/-!
# Attribute strings
-/

def attributeChars (q : Char) : Text → Text × Text
  | [] => ([], [])
  | ['&'] => ([], ['&'])
  | '&' :: c :: rest =>
      if c == '#' || isLetter c then ([], '&' :: c :: rest)
      else
        let (t, r) := attributeChars q rest
        ('&' :: c :: t, r)
  | c :: rest =>
      if c == q then ([], c :: rest)
      else
        let (t, r) := attributeChars q rest
        (c :: t, r)

/-- The pieces of an attribute string after its opening quote `q`.  White space between
two lexemes belongs to the reference behind it. -/
def attributeTail (q : Char) : Nat → Text → Option (List Tree × Text)
  | 0, _ => none
  | fuel + 1, t =>
      let (blank, after) := t.span isGap
      match reference? after with
      | some (e, rest) =>
          (attributeTail q fuel rest).map fun (more, r) =>
            (.leaf none .htmlCharacterReference (blank ++ e) :: more, r)
      | none =>
          match attributeChars q t with
          | ([], c :: rest) => if c == q then some ([.token none [q]], rest) else none
          | ([], []) => none
          | (plain, rest) =>
              (attributeTail q fuel rest).map fun (more, r) =>
                (.leaf none .stringFragment plain :: more, r)

def attributeString? : Text → Option (Tree × Text)
  | q :: rest =>
      if q == '"' || q == '\'' then
        (attributeTail q (rest.length + 1) rest).map fun (more, r) =>
          (.branch none .string (.token none [q] :: more), r)
      else none
  | [] => none

/-!
# Children
-/

inductive MarkupSort where
  | text
  | reference
  | comment
  | opening
  | closing
  | brace
  deriving DecidableEq

def isMarkupMark (c : Char) : Bool :=
  c == '{' || c == '}' || c == '<' || c == '>' || c == '&'

/-- The mark at the head of a text, written with the white space before it. -/
def markupMark? (space : Text) : Text → Option (MarkupSort × Text × Text)
  | '<' :: '/' :: rest => some (.closing, space ++ ['<', '/'], rest)
  | '<' :: rest => some (.opening, space ++ ['<'], rest)
  | '{' :: rest => some (.brace, space ++ ['{'], rest)
  | t => (reference? t).map fun (r, rest) => (.reference, space ++ r, rest)

def markupLexeme? (t : Text) : Option (MarkupSort × Text × Text) :=
  let (plain, after) := t.span fun c => !isMarkupMark c
  let (space, rest) := t.span isGap
  let (line, below) := space.span (· != '\n')
  -- white space up to a line feed is text of its own unless more text follows on the line
  if !line.isEmpty && !(below.isEmpty && space.length < plain.length) then
    some (.text, line, t.drop line.length)
  else if space.length < plain.length then
    match comment? rest with
    | some (c, more) =>
        if plain.length < space.length + c.length then some (.comment, space ++ c, more)
        else some (.text, plain, after)
    | none => some (.text, plain, after)
  else markupMark? space rest

end Lexeme
end ComponentDecl
