import ComponentDecl.Parse.Grammar

/-!
# Patterns

Patterns name the places that a value is taken apart into: names, members, and
objects and arrays of patterns.
-/

namespace ComponentDecl
namespace Parse

variable (g : Grammar)

/-!
# Property names
-/

def startsName (t : Text) : Bool :=
  match t with
  | [] => false
  | c :: rest =>
      c == '[' || c == '"' || c == '\'' || c == '#' || Lexeme.isDigit c ||
        (c == '.' && rest.head?.any Lexeme.isDigit) || (Lexeme.word? t).isSome

def propertyName : Parse Item := do
  match ← next true with
  | '[' :: _ =>
      return Item.node .computedPropertyName
        [← mark "[" true, ← expression g .inner, ← mark "]" false]
  | c :: _ =>
      if c == '"' || c == '\'' then string true
      else if c == '#' then privateName true
      else if Lexeme.isDigit c || c == '.' then number true
      else word .propertyIdentifier true
  | [] => failure

/-!
# Destructuring
-/

/-- A pattern, with a default value if an equals sign follows. -/
def patternWithDefault : Parse Item := do
  let p ← g.pattern
  if ← seesAssign then
    ensure !(p.isAny [.restPattern])
    return Item.node .assignmentPattern
      [p.inField .left, ← mark "=" false, (← expression g .inner).inField .right]
  else return p

def arrayPattern : Parse Item := do
  let o ← mark "[" true
  let es ← listed "]" (patternWithDefault g)
  return Item.node .arrayPattern (o :: es ++ [← mark "]" true])

/-- Three points and what takes the rest. -/
def restPattern (target : Parse Item) : Parse Item := do
  let dots ← mark "..." true
  ensure !(← sees "..." true)
  return Item.node .restPattern [dots, ← target]

/-- What can be assigned to as a whole: names and members. -/
def place : Parse Item := do
  let i ← g.chain
  ensure (i.isAny [.identifier, .undefinedWord, .memberExpression, .subscriptExpression])
  return i

def namedMember : Parse Item := do
  let key ← propertyName g
  if ← sees ":" false then
    return Item.node .pairPattern
      [key.inField .key, ← mark ":" false, (← patternWithDefault g).inField .value]
  else
    ensure (key.isAny [.propertyIdentifier])
    let name := key.recast .shorthandPropertyIdentifierPattern
    if ← seesAssign then
      return Item.node .objectAssignmentPattern
        [name.inField .left, ← mark "=" false, (← expression g .inner).inField .right]
    else return name

def destructuredMember (inner : Parse Item) : Parse Item := do
  return Item.node .objectAssignmentPattern
    [(← inner).inField .left, ← mark "=" false, (← expression g .inner).inField .right]

def patternMember : Parse Item := do
  match ← next true with
  | '{' :: _ => destructuredMember g g.pattern
  | '[' :: _ => namedMember g <|> destructuredMember g g.pattern
  | '.' :: '.' :: _ => restPattern g.pattern
  | _ => namedMember g

def objectPattern : Parse Item := do
  let o ← mark "\x7b" true
  let es ← listed "\x7d" (patternMember g)
  return Item.node .objectPattern (o :: es ++ [← mark "\x7d" true])

/-- Whether a member or a call follows. -/
def seesSuffix : Parse Bool := do
  match ← next false with
  | '.' :: c :: _ => return c != '.'
  | '?' :: '.' :: _ => return true
  | c :: _ => return c == '[' || c == '(' || c == '\x60'
  | [] => return false

def destructuring : Parse Item := do
  if ← sees "[" true then arrayPattern g else objectPattern g

/-- What can be assigned to: a destructuring pattern, a name or a member. -/
def target : Parse Item := do
  match ← next true with
  | c :: _ =>
      if c == '[' || c == '{' then
        (do
          let p ← destructuring g
          ensure !(← seesSuffix)
          return p) <|> place g
      else place g
  | [] => failure

def pattern : Parse Item := do
  if ← sees "..." true then restPattern (target g) else target g

def binding : Parse Item := do
  match ← next true with
  | c :: _ => if c == '[' || c == '{' then destructuring g else word .identifier true
  | [] => failure

def parameters : Parse Item := do
  let o ← mark "(" true
  let es ← whileSees (do return !(← sees ")" true)) do
    ensure !(← sees "(" true)
    let p ← patternWithDefault g
    if ← sees "," false then return [p, ← mark "," false]
    else
      ensure (← sees ")" false)
      return [p]
  return Item.node .formalParameters (o :: es ++ [← mark ")" true])

end Parse
end ComponentDecl
