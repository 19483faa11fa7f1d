import ComponentDecl.Parse.Cover

/-!
# Functions and methods
-/

namespace ComponentDecl
namespace Parse

variable (g : Grammar)

/-!
# Functions
-/

/-- A function as read: its pieces, and what decides its kind. -/
structure FunctionParts where
  items : List Item
  generator : Bool
  named : Bool

namespace FunctionParts

def toExpression (f : FunctionParts) : Item :=
  Item.node (if f.generator then .generatorFunction else .functionExpression) f.items

def toDeclaration (f : FunctionParts) (tail : List Item) : Item :=
  Item.node (if f.generator then .generatorFunctionDeclaration else .functionDeclaration)
    (f.items ++ tail)

end FunctionParts

/-- An item if a word of the given text follows. -/
def optionalKeyword (w : String) : Parse (List Item) := do
  if ← seesWord w true then return [← keyword w true] else return []

/-- A function from its first keyword through its body.  The flag tells whether an
operator could follow. -/
def functionParts (operators : Bool) : Parse FunctionParts := do
  let start ← optionalKeyword "async"
  let kw ← keyword "function" true
  let star ← if ← sees "*" true then pure [← mark "*" true] else pure []
  let name ←
    if ← sees "(" true then pure []
    else pure [(← word .identifier true).inField .name]
  let ps ← parameters g
  let body ← block g operators
  return {
    items := start ++ kw :: star ++ name ++ [ps.inField .parameters, body.inField .body]
    generator := !star.isEmpty
    named := !name.isEmpty }

/-!
# Methods
-/

/-- The token `static get` with the line end after it, in which the words are parted
and followed by white space only. -/
def staticGet? (t : Text) : Option (Text × Text) := do
  let rest ← Text.strip? "static" t
  let (s, rest) := rest.span Lexeme.isSpace
  if s.isEmpty then Option.none
  else
    let rest ← Text.strip? "get" rest
    let (u, rest) := rest.span Lexeme.isSpace
    let back := u.reverse.dropWhile (· != '\n')
    if back.isEmpty then Option.none
    else some ("static".toList ++ s ++ "get".toList ++ back.reverse,
      u.drop back.length ++ rest)

/-- Whether the next word is `w` and qualifies the name after it.  In a class a line
end behind the word makes it a name of its own. -/
def seesModifier (w : String) (inClass : Bool) : Parse Bool := do
  match Lexeme.word? (← next true) with
  | some (v, rest) =>
      if v == w then
        if inClass && (inserted? false rest).isSome then return false
        else
          let (_, after) := Lexeme.trivia false rest
          return startsName after || Text.startsWith "*" after
      else return false
  | none => return false

def modifiers (inClass : Bool) : Parse (List Item) := do
  let both := (staticGet? (← next true)).isSome
  let first ←
    if both then
      pure [← lexeme true fun t => (staticGet? t).map fun (w, rest) => (.token .none w, rest)]
    else if ← seesModifier "static" inClass then pure [← keyword "static" true]
    else pure []
  let second ←
    if ← seesModifier "async" inClass then pure [← keyword "async" true] else pure []
  -- a line end behind `get` or `set` counts only where `static` alone is in front
  let inClass := inClass && second.isEmpty && !both
  let third ←
    if ← sees "*" true then pure [← mark "*" true]
    else if ← seesModifier "get" inClass then pure [← keyword "get" true]
    else if ← seesModifier "set" inClass then pure [← keyword "set" true]
    else pure []
  return first ++ second ++ third

def methodTail (front : List Item) (name : Item) : Parse Item := do
  let ps ← parameters g
  let body ← block g false
  noHtmlComment
  return Item.node .methodDefinition
    (front ++ [name.inField .name, ps.inField .parameters, body.inField .body])

end Parse
end ComponentDecl
