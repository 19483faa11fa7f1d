import ComponentDecl.Parse.Grammar

/-!
# Elements of markup
-/

namespace ComponentDecl
namespace Parse

variable (g : Grammar)

/-!
# Names
-/

def markupName (k : Kind) : Parse Item :=
  lexeme true fun t =>
    ((Lexeme.hyphenated? t).orElse fun _ => Lexeme.word? t).map fun (w, rest) =>
      (.leaf none k w, rest)

def nameMember (i : Item) : Parse (Option Item) := do
  if ← sees "." true then
    return some (Item.node .memberExpression
      [i.inField .object, ← mark "." true, (← word .propertyIdentifier true).inField .property])
  else return none

/-- The name of an element: a name, a name with a namespace or a member. -/
def elementName : Parse Item := do
  let first ← markupName .identifier
  if ← sees ":" true then
    return Item.node .jsxNamespaceName [first, ← mark ":" true, ← markupName .identifier]
  else if first.body.any fun t => t.text.contains '-' then return first
  else grow nameMember first

/-!
# Attributes
-/

def bracedTail (o : Item) : Parse Item := do
  if ← sees "\x7d" true then return Item.node .jsxExpression [o, ← mark "\x7d" true]
  else
    let e ← if ← sees "..." true then spread g .inner else expressions g .inner
    return Item.node .jsxExpression [o, e, ← mark "\x7d" false]

def braced : Parse Item := do
  bracedTail g (← mark "\x7b" true)

def attributeValue : Parse Item := do
  match ← next true with
  | '{' :: _ => braced g
  | '<' :: _ => g.element (← mark "<" true)
  | _ => lexeme true Lexeme.attributeString?

/-- An attribute, or an expression in braces in its place. -/
def elementAttribute : Parse Item := do
  if ← sees "\x7b" true then return (← braced g).inField .elementAttribute
  else
    let first ← markupName .propertyIdentifier
    let name ←
      if ← sees ":" true then
        pure (Item.node .jsxNamespaceName
          [first.recast .identifier, ← mark ":" true, ← markupName .identifier])
      else pure first
    if ← sees "=" true then
      return (Item.node .jsxAttribute
        [name, ← mark "=" true, ← attributeValue g]).inField .elementAttribute
    else return (Item.node .jsxAttribute [name]).inField .elementAttribute

/-!
# Elements
-/

def closingTail (o : Item) : Parse Item := do
  let name ←
    if ← sees ">" true then pure []
    else pure [(← elementName).inField .name]
  return Item.node .jsxClosingElement (o :: name ++ [← mark ">" true])

def childComment? (t : Text) : Option (Item × Text) :=
  let (space, rest) := t.span fun c => Lexeme.isSpace c || Lexeme.isSeparator c
  (Lexeme.htmlComment? rest).map fun (c, more) =>
    (⟨Lexeme.gap space, [.leaf none .htmlComment c]⟩, more)

/-- The children of an element and its closing tag, at most `fuel` of them. -/
def elementTail : Nat → Parse (List Item)
  | 0 => failure
  | fuel + 1 => do
      let t ← get
      match childComment? t with
      | some (c, rest) =>
          set rest
          return c :: (← elementTail fuel)
      | none =>
          match Lexeme.markupLexeme? t with
          | some (sort, text, rest) =>
              set rest
              let leaf (k : Kind) : Item := ⟨[], [.leaf none k text]⟩
              let o : Item := ⟨[], [.token none text]⟩
              match sort with
              | .text => return leaf .jsxText :: (← elementTail fuel)
              | .reference => return leaf .htmlCharacterReference :: (← elementTail fuel)
              | .comment => return leaf .comment :: (← elementTail fuel)
              | .brace =>
                  let e ← bracedTail g o
                  return e :: (← elementTail fuel)
              | .opening =>
                  let e ← g.element o
                  return e :: (← elementTail fuel)
              | .closing => return [(← closingTail o).inField .closeTag]
          | none => failure

def element (o : Item) : Parse Item := do
  let front ←
    if ← sees ">" true then pure []
    else
      let name ← elementName
      let attributes ← whileSees
        (do return !(← sees ">" true) && !(← sees "/>" true)) (do return [← elementAttribute g])
      pure (name.inField .name :: attributes)
  if ← sees "/>" true then
    ensure !front.isEmpty
    return Item.node .jsxSelfClosingElement (o :: front ++ [← mark "/>" true])
  else
    let opening := Item.node .jsxOpeningElement (o :: front ++ [← mark ">" true])
    let rest ← elementTail g ((← left) + 1)
    return Item.node .jsxElement (opening.inField .openTag :: rest)

end Parse
end ComponentDecl
