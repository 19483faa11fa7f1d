import ComponentDecl.Lexeme.Trivia
import ComponentDecl.Lexeme.Word

/-!
# Quoted text

String literals, escape sequences and the plain stretches of template literals.
-/

namespace ComponentDecl
namespace Lexeme

/-!
# Escape sequences
-/

def isOctal (c : Char) : Bool :=
  '0' ≤ c && c ≤ '7'

def escape? : Text → Option (Text × Text)
  | '\\' :: 'x' :: a :: b :: rest =>
      if isHex a && isHex b then some (['\\', 'x', a, b], rest) else none
  | '\\' :: 'x' :: _ => none
  | '\\' :: 'u' :: rest => unicodeEscape? ('\\' :: 'u' :: rest)
  | '\\' :: c :: rest =>
      if isOctal c then
        let ds := (c :: rest.take 2).takeWhile isOctal
        some ('\\' :: ds, (c :: rest).drop ds.length)
      else
        match rest with
        | d :: more =>
            if (c == '\r' || c == '?') && isLineEnd d then some (['\\', c, d], more)
            else some (['\\', c], rest)
        | [] => some (['\\', c], [])
  | _ => none

/-!
# Strings

A string may not hold a bare line break as content.  White space that starts with
a line break is allowed before the closing quote all the same, and so is a comment
after it.
-/

/-- The pieces of a string literal after its opening quote `q`, through the closing
quote, in at most `fuel` pieces. -/
def stringTail (q : Char) : Nat → Text → Option (List Tree × Text)
  | 0, _ => none
  | fuel + 1, t =>
      let (plain, rest) := t.span fun c => !(c == q || c == '\\' || c == '\r' || c == '\n')
      if plain.isEmpty then
        match escape? t with
        | some (e, rest) =>
            (stringTail q fuel rest).map fun (more, r) => (.leaf none .escapeSequence e :: more, r)
        | none =>
            match commentAhead? false t with
            | some (trees, rest) =>
                (stringTail q fuel rest).map fun (more, r) => (trees ++ more, r)
            | none =>
                -- white space without a comment behind it has to end the string
                match t.span isGap with
                | (space, c :: rest) =>
                    if c == q then some (gap space ++ [.token none [q]], rest) else none
                | _ => none
      else
        (stringTail q fuel rest).map fun (more, r) => (.leaf none .stringFragment plain :: more, r)

def string? : Text → Option (Tree × Text)
  | q :: rest =>
      if q == '"' || q == '\'' then
        (stringTail q (rest.length + 1) rest).map fun (more, r) =>
          (.branch none .string (.token none [q] :: more), r)
      else none
  | [] => none

/-!
# Templates
-/

/-- The plain stretch of a template literal at the head of a text: up to a closing
quote, a substitution or an escape, which must follow. -/
def templateChars? : Text → Option (Text × Text)
  | [] => none
  | '$' :: '{' :: rest => some ([], '$' :: '{' :: rest)
  | c :: rest =>
      if c == '\x60' || c == '\\' then some ([], c :: rest)
      else if c.toNat == 0 then none
      else (templateChars? rest).map fun (t, r) => (c :: t, r)

/-!
# Regular expressions
-/

def classTail : Text → Option (Text × Text)
  | [] => none
  | ']' :: rest => some ([']'], rest)
  | '\\' :: c :: rest =>
      if c == '\n' then none
      else (classTail rest).map fun (t, r) => ('\\' :: c :: t, r)
  | c :: rest =>
      if c == '\n' || c == '\\' then none
      else (classTail rest).map fun (t, r) => (c :: t, r)

def patternWithin : Nat → Text → Text × Text
  | 0, t => ([], t)
  | _ + 1, [] => ([], [])
  | fuel + 1, '[' :: rest =>
      match classTail rest with
      | some (c, rest) =>
          let (more, rest) := patternWithin fuel rest
          ('[' :: c ++ more, rest)
      | none => ([], '[' :: rest)
  | fuel + 1, '\\' :: c :: rest =>
      if c == '\n' then ([], '\\' :: c :: rest)
      else
        let (more, rest) := patternWithin fuel rest
        ('\\' :: c :: more, rest)
  | fuel + 1, c :: rest =>
      if c == '/' || c == '\n' || c == '\\' then ([], c :: rest)
      else
        let (more, rest) := patternWithin fuel rest
        (c :: more, rest)

/-- Whether white space and then a comment stand at the head of a text: there the
comment wins over a pattern. -/
def commentBeforePattern (t : Text) : Bool :=
  let (space, rest) := t.span isGap
  !space.isEmpty && (comment? rest).isSome

/-- The flags of a regular expression at the head of a text, if there are some, and the
rest.  The words `in` and `instanceof` are operators. -/
def regexFlags (t : Text) : List Tree × Text :=
  let (flags, rest) := t.span fun c => 'a' ≤ c && c ≤ 'z'
  if flags.isEmpty || flags == "in" || flags == "instanceof" then ([], t)
  else ([.leaf (some .flags) .regexFlags flags], rest)

/-- The flags of a regular expression that stand right behind a comment, with what
stands before them, and the rest. -/
def lateFlags? (t : Text) : Option (List Tree × Text) :=
  match trivia false t with
  | (trees, rest) =>
      match trees.getLast?, regexFlags rest with
      | some (.leaf ..), (flags@(_ :: _), rest) => some (trees ++ flags, rest)
      | _, _ => none

/-- The regular expression literal at the head of a text, and the rest.  Behind
a pattern that ends with its line, white space and comments may come before the closing
slash if a comment comes last. -/
def regex? : Text → Option (Tree × Text)
  | '/' :: rest =>
      if commentBeforePattern rest then none
      else
        match patternWithin (rest.length + 1) rest with
        | (c :: cs, after) =>
            -- the closing slash, or a line end and comments before it
            let (between, close) :=
              if after.head? == some '/' then ([], after)
              else
                match trivia false after with
                | (trees, close) =>
                    match trees.getLast? with
                    | some (.leaf ..) => (trees, close)
                    | _ => ([], after)
            match close with
            | '/' :: more =>
                let (flags, more) := regexFlags more
                some (.branch none .regex ([.token none "/",
                  .leaf (some .pattern) .regexPattern (c :: cs)] ++ between ++
                  [.token none "/"] ++ flags), more)
            | _ => none
        | _ => none
  | _ => none

end Lexeme
end ComponentDecl
