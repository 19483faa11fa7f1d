import ComponentDecl.Parse.Function

/-!
# Classes
-/

namespace ComponentDecl
namespace Parse

variable (g : Grammar)

/-!
# Decorators
-/

def decoratorMember (i : Item) : Parse (Option Item) := do
  let t ← next false
  if Text.startsWith "." t && !(t.drop 1).head?.any Lexeme.isDigit then
    return some (Item.node .memberExpression
      [i.inField .object, ← mark "." false, (← word .propertyIdentifier true).inField .property])
  else return none

def decorator : Parse Item := do
  let sign ← mark "@" true
  let name ← grow decoratorMember (← word .identifier true)
  if ← sees "(" true then
    let call := Item.node .callExpression
      [name.inField .callee, (← arguments g).inField .arguments]
    return (Item.node .decorator [sign, call]).inField .decorator
  else return (Item.node .decorator [sign, name]).inField .decorator

def decorators : Parse (List Item) :=
  whileSees (sees "@" true) do return [← decorator g]

/-!
# Templates between tags
-/

/-- The pieces of a template through its closing tag, at most `fuel` of them.  Blanks
of the same line belong to the comment or the closing tag behind them. -/
def templateContent : Nat → Text → Option (List Tree × Text)
  | 0, _ => none
  | fuel + 1, t =>
      let (space, beyond) := t.span fun c => Lexeme.isSpace c || Lexeme.isSeparator c
      match Lexeme.htmlComment? beyond with
      | some (c, rest) =>
          (templateContent fuel rest).map fun (more, r) =>
            (Lexeme.gap space ++ .leaf none .htmlComment c :: more, r)
      | none =>
          let (blank, after) := t.span fun c => Lexeme.isSpace c && c != '\n'
          match Lexeme.comment? after, Text.strip? "</template>" after with
          | some (c, rest), _ =>
              (templateContent fuel rest).map fun (more, r) =>
                (.leaf none .comment (blank ++ c) :: more, r)
          | none, some rest =>
              some ([.leaf (some .closeTag) .glimmerClosingTag
                (blank ++ "</template>".toList)], rest)
          | none, none =>
              match t with
              | [] => none
              | c :: rest =>
                  (templateContent fuel rest).map fun (more, r) => (.gap [c] :: more, r)

def taggedTemplate : Parse Item :=
  lexeme true fun t => do
    let rest ← Text.strip? "<template>" t
    let (more, rest) ← templateContent (rest.length + 1) rest
    return (.branch none .glimmerTemplate
      (.leaf (some .openTag) .glimmerOpeningTag "<template>" :: more), rest)

/-!
# Members
-/

def seesStaticBlock : Parse Bool := do
  match Lexeme.word? (← next true) with
  | some (w, rest) =>
      let (_, after) := Lexeme.trivia false rest
      return w == "static" && Text.startsWith "\x7b" after
  | none => return false

def staticBlock : Parse Item := do
  let kw ← keyword "static" true
  let tail ← optionalInserted false
  let body ← block g false
  return Item.node .classStaticBlock (kw :: tail ++ [body.inField .body])

def fieldOrMethod : Parse (List Item) := do
  let ds ← decorators g
  let ms ← modifiers true
  let name ← propertyName g
  if !(← seesInserted false) && (← sees "(" false) then
    return [(← methodTail g (ds ++ ms) name).inField .member]
  else
    -- the only word in front of the name of a field is `static`
    ensure (ms.isEmpty ||
      (match ms with
       | [m] => m.body.map Tree.text == ["static".toList]
       | _ => false))
    let front := ds ++ ms ++ [name.inField .property]
    if !(← seesInserted false) && (← sees "=" false) then
      let value ← initializer g .ending
      let field := Item.node .fieldDefinition (front ++ value)
      return [field.inField .member, ← semicolon true]
    else
      let field := Item.node .fieldDefinition front
      return [field.inField .member, ← semicolon false]

def member : Parse (List Item) := do
  if ← sees ";" true then return [← mark ";" true]
  else if ← sees "<template>" true then return [(← taggedTemplate).inField .template]
  else if ← seesStaticBlock then return [(← staticBlock g).inField .member]
  else fieldOrMethod g

def classBody : Parse Item := do
  let o ← mark "\x7b" true
  let ms ← whileSees (do return !atBrace (← next true)) (member g)
  return Item.node .classBody (o :: ms ++ [← mark "\x7d" true])

/-- A class as read: its pieces, and whether it has a name. -/
structure ClassParts where
  items : List Item
  named : Bool

namespace ClassParts

def toExpression (c : ClassParts) : Item :=
  Item.node .classExpression c.items

/-- The class as a declaration, with the semicolon after it. -/
def toDeclaration (c : ClassParts) (tail : List Item) : Item :=
  Item.node .classDeclaration (c.items ++ tail)

end ClassParts

/-- A class from its keyword through its body, after the given decorators. -/
def classParts (front : List Item) : Parse ClassParts := do
  let kw ← keyword "class" true
  let name ←
    match Lexeme.word? (← next true) with
    | some (w, _) =>
        -- no class is named `extends`
        if w == "extends" then pure [] else pure [(← word .identifier true).inField .name]
    | none => pure []
  let base ←
    if ← seesWord "extends" true then
      pure [Item.node .classHeritage [← keyword "extends" true, ← expression g .inner]]
    else pure []
  let body ← classBody g
  return {
    items := front ++ kw :: name ++ base ++ [body.inField .body]
    named := !name.isEmpty }

end Parse
end ComponentDecl
