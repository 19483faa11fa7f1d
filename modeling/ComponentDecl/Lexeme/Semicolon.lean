import ComponentDecl.Lexeme.Trivia

/-!
# Automatic semicolons

A statement may end without a semicolon at the end of the source, before a closing
brace, and at a line end unless the next line goes on with an operator.  Whether a
comment may be skipped on the way depends on whether an operator could follow.
-/

namespace ComponentDecl
namespace Lexeme

/-- How a skim over white space and comments ended. -/
inductive Skim where
  /-- A slash that starts no comment. -/
  | slash
  /-- Behind a block comment without a line end. -/
  | sameLine
  /-- In front of anything else. -/
  | done
  deriving DecidableEq

/-- What follows a block comment that began before the text, and whether a line end
was seen in it.  A comment without an end reaches to the end of the text. -/
def afterBlock (newline : Bool) : Text → Bool × Bool × Text
  | [] => (newline, false, [])
  | '*' :: '/' :: rest => (newline, true, rest)
  | c :: rest =>
      -- a null character is taken for the end of the source
      if c.toNat == 0 then (newline, false, c :: rest)
      else afterBlock (newline || isLineEnd c) rest

/-- Skims white space and comments.  Unless `whole` is set, it stops behind the first
block comment that no slash follows. -/
def skim (whole : Bool) : Nat → Bool → Text → Skim × Text
  | 0, _, t => (.done, t)
  | fuel + 1, newline, t =>
      match t.dropWhile isSpace with
      | '/' :: '/' :: rest =>
          skim whole fuel newline (rest.dropWhile fun c => !(isLineEnd c || c.toNat == 0))
      | '/' :: '*' :: rest =>
          match afterBlock newline rest with
          | (newline, true, rest) =>
              if !whole && rest.head? != some '/' then
                (if newline then .done else .sameLine, rest)
              else skim whole fuel newline rest
          | (newline, false, rest) => skim whole fuel newline rest
      | '/' :: rest => (.slash, rest)
      | rest => (.done, rest)

/-- Whether a word `in` or `instanceof` stands at the head of a text, judged by Latin
letters only. -/
def startsRelation (t : Text) : Bool :=
  let ends (rest : Text) : Bool :=
    match rest with
    | c :: _ => !isLetter c
    | [] => true
  match t with
  | 'i' :: 'n' :: rest =>
      ends rest ||
        (match Text.strip? "stanceof" rest with
         | some rest => ends rest
         | none => false)
  | _ => false

/-- Whether the first lexeme of a new line lets a statement end before it. -/
def startsStatement : Text → Bool
  | [] => true
  | '.' :: rest => rest.head?.any isDigit
  | '+' :: rest => rest.head? == some '+'
  | '-' :: rest => rest.head? == some '-'
  | '!' :: rest => rest.head? != some '='
  | c :: rest => !(Text.contains ",:;*%><=[(?^|&/" c) && !startsRelation (c :: rest)
where
  Text.contains (t : String) (c : Char) : Bool := t.toList.contains c

/-- Whether a semicolon is inserted after the lexeme that precedes the text.  The flag
tells whether an operator could follow that lexeme. -/
def insertsSemicolonWithin (operators : Bool) : Nat → Text → Bool
  | 0, _ => false
  | _ + 1, [] => true
  | fuel + 1, c :: rest =>
      -- a null character is taken for the end of the source
      if c.toNat == 0 then true
      else
        match (if c == '/' then skim false (rest.length + 2) false (c :: rest)
               else (.sameLine, c :: rest)) with
        | (.slash, _) => false
        | (ended, t) =>
            if c == '/' && ended == .done && !operators &&
                t.head? != some ',' && t.head? != some '=' then true
            else
              match t with
              | [] => false
              | d :: more =>
                  if d == '}' then true
                  else if isLineEnd d then
                    match skim true (more.length + 1) false more with
                    | (.slash, _) => false
                    | (_, next) => startsStatement next
                  else if isSpace d then insertsSemicolonWithin operators fuel more
                  else false

def insertsSemicolon (operators : Bool) (t : Text) : Bool :=
  insertsSemicolonWithin operators (t.length + 1) t

end Lexeme
end ComponentDecl
