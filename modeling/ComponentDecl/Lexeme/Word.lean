import ComponentDecl.Lexeme.Character

/-!
# Words

Words are identifiers and keywords.  A word consists of word characters and of
escapes for a character by its number.
-/

namespace ComponentDecl
namespace Lexeme

/-- An escape `\uXXXX` or `\u{X...}` at the head of a text, and the rest. -/
def unicodeEscape? : Text → Option (Text × Text)
  | '\\' :: 'u' :: '{' :: rest =>
      match rest.span isHex with
      | (d :: ds, '}' :: more) => some (['\\', 'u', '{'] ++ (d :: ds) ++ ['}'], more)
      | _ => none
  | '\\' :: 'u' :: a :: b :: c :: d :: rest =>
      if isHex a && isHex b && isHex c && isHex d then
        some (['\\', 'u', a, b, c, d], rest)
      else none
  | _ => none

def wordTail : Nat → Text → Text × Text
  | 0, t => ([], t)
  | _ + 1, [] => ([], [])
  | fuel + 1, c :: rest =>
      if isWordChar c then
        let (more, rest) := wordTail fuel rest
        (c :: more, rest)
      else
        match unicodeEscape? (c :: rest) with
        | some (e, rest) =>
            let (more, rest) := wordTail fuel rest
            (e ++ more, rest)
        | none => ([], c :: rest)

def word? : Text → Option (Text × Text)
  | [] => none
  | c :: rest =>
      if isWordStart c then
        let (more, rest) := wordTail rest.length rest
        some (c :: more, rest)
      else
        (unicodeEscape? (c :: rest)).map fun (e, rest) =>
          let (more, rest) := wordTail rest.length rest
          (e ++ more, rest)

/-- The private name at the head of a text: a word after a number sign. -/
def privateName? : Text → Option (Text × Text)
  | '#' :: rest => (word? rest).map fun (w, rest) => ('#' :: w, rest)
  | _ => none

def wordIs (w : Text) (t : Text) : Bool :=
  match word? t with
  | some (v, _) => v == w
  | none => false

end Lexeme
end ComponentDecl
