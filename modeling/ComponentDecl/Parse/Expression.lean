import ComponentDecl.Parse.Class
import ComponentDecl.Parse.Markup

/-!
# Expressions

An operand is a name, a literal or a bracketed expression with members, calls and
updates behind it, or a prefix operator and its operand.  Assignments and arrow
functions are operands too: they reach as far as they can.  Binary operators and the
conditional operator join operands by their strength.
-/

namespace ComponentDecl
namespace Parse

variable (g : Grammar)

/-!
# Literals
-/

/-- The pieces of a template literal through its closing quote, at most `fuel` of
them. -/
def templateTail : Nat → Parse (List Item)
  | 0 => failure
  | fuel + 1 => do
      match Lexeme.templateChars? (← get) with
      | some ([], '\x60' :: rest) =>
          set rest
          return [⟨[], [.token none "\x60"]⟩]
      | some ([], '$' :: rest) =>
          set rest
          let b ← mark "\x7b" false
          let o : Item := ⟨[], [.token none ('$' :: Tree.textAll b.body)]⟩
          let e ← expressions g .inner
          let sub := Item.node .templateSubstitution [o, e, ← mark "\x7d" false]
          return sub :: (← templateTail fuel)
      | some ([], rest) =>
          match Lexeme.escape? rest with
          | some (e, rest) =>
              set rest
              return ⟨[], [.leaf none .escapeSequence e]⟩ :: (← templateTail fuel)
          | none => failure
      | some (plain, rest) =>
          set rest
          return ⟨[], [.leaf none .stringFragment plain]⟩ :: (← templateTail fuel)
      | none => failure

def templateString (html : Bool) : Parse Item := do
  let o ← mark "\x60" html
  let rest ← templateTail g ((← left) + 1)
  return Item.node .templateString (o :: rest)

def hasFlags (i : Item) : Bool :=
  i.body.any fun t => t.children.any fun c => c.field == some .flags

/-- A regular expression.  Its flags may follow a comment. -/
def regexLiteral (s : Setting) : Parse Item := do
  let i ← lexeme true Lexeme.regex?
  if hasFlags i || (s.semicolons && (← seesInserted true)) then return i
  else
    match Lexeme.lateFlags? (← get) with
    | some (tail, rest) =>
        set rest
        let extended := i.body.map fun t => Tree.branch t.field .regex (t.children ++ tail)
        return { i with body := extended }
    | none => return i

def array : Parse Item := do
  let o ← mark "[" true
  let es ← listed "]" (expressionOrSpread g .covering)
  return Item.node .array (o :: es ++ [← mark "]" true])

/-- A member of an object literal that starts with a property name.  A name with a
default fits a pattern only. -/
def namedObjectMember : Parse Item := do
  let ms ← modifiers false
  let name ← propertyName g
  if ← sees "(" false then methodTail g ms name
  else
    ensure ms.isEmpty
    if ← sees ":" false then
      return Item.node .pair
        [name.inField .key, ← mark ":" false, (← expression g .covering).inField .value]
    else
      ensure (name.isAny [.propertyIdentifier])
      if ← seesAssign then
        let name := name.recast .shorthandPropertyIdentifierPattern
        return Item.node .objectAssignmentPattern
          [name.inField .left, ← mark "=" false, (← expression g .inner).inField .right]
      else return name.recast .shorthandPropertyIdentifier

/-- A member of an object literal, or of a pattern that may stand in its place. -/
def objectMember : Parse Item := do
  match ← next true with
  | '{' :: _ => destructuredMember g g.pattern
  | '[' :: _ => namedObjectMember g <|> destructuredMember g g.pattern
  | '.' :: '.' :: _ => spread g .covering
  | '@' :: _ =>
      let ds ← decorators g
      let ms ← modifiers false
      methodTail g (ds ++ ms) (← propertyName g)
  | _ => namedObjectMember g

def objectLiteral : Parse Item := do
  let o ← mark "\x7b" true
  let ms ← listed "\x7d" (objectMember g)
  return Item.node .object (o :: ms ++ [← mark "\x7d" true])

/-- An object or array literal, or a pattern in its place if it is assigned to. -/
def literalOrPattern (s : Setting) (literal : Parse Item) : Parse Item := do
  let i ← literal
  if ← seesAssign then recastPattern .target i
  else
    ensure (!i.isPatternOnly || (s.cover && (← seesElementEnd)))
    return i

/-!
# Arrow functions
-/

def opensEmpty (t : Text) : Bool :=
  match t with
  | '{' :: rest => Text.startsWith "\x7d" (Lexeme.trivia true rest).2
  | _ => false

/-- Whether braces open with a word and a colon: a label of a statement or the first
member of an object. -/
def opensWithLabel (t : Text) : Bool :=
  match t with
  | '{' :: rest =>
      match Lexeme.word? (Lexeme.trivia true rest).2 with
      | some (_, rest) => Text.startsWith ":" (Lexeme.trivia false rest).2
      | none => false
  | _ => false

/-- The words that a statement or an operand starts with and that are no names where one
is expected. -/
def leadingWords : List Text :=
  List.map String.toList
    ["if", "for", "while", "do", "try", "with", "switch", "break", "continue", "debugger",
     "return", "throw", "var", "const", "function", "class", "import", "new", "typeof", "void",
     "delete", "await", "yield", "this", "super", "true", "false", "null", "undefined"]

/-- Whether braces cannot open an object: they open with a word that a statement starts
with, or with a name alone. -/
def opensBlock (t : Text) : Bool :=
  match t with
  | '{' :: rest =>
      match Lexeme.word? (Lexeme.trivia true rest).2 with
      | some (w, rest) =>
          let (_, after) := Lexeme.trivia false rest
          leadingWords.contains w || Text.startsWith "," after || Text.startsWith "\x7d" after
      | none => false
  | _ => false

/-- The body of an arrow function.  Braces open a block unless only an object fits; what
opens with a label is an object if it can be one. -/
def arrowBody (s : Setting) : Parse Item := do
  let t ← next true
  match t with
  | '{' :: _ =>
      if opensEmpty t then
        (do
          let b ← block g true
          -- empty braces that are assigned to are a pattern
          ensure !(← seesAssign)
          return b) <|> expression g s.firm
      else if opensBlock t then block g true
      else if opensWithLabel t then expression g s.firm <|> block g true
      else block g true <|> expression g s.firm
  | _ => expression g s.firm

def arrowTail (s : Setting) (front : List Item) : Parse Item := do
  let arrow ← mark "=>" false
  let body ← arrowBody g s
  return Item.node .arrowFunction (front ++ [arrow, body.inField .body])

def hasArrow : Text → Bool
  | '=' :: '>' :: _ => true
  | _ :: rest => hasArrow rest
  | [] => false

/-- What stands in parentheses, up to the closing one: expressions, or parameters. -/
def coverList : Parse (List Item) :=
  whileSees (do return !(← sees ")" true)) do
    let e ← expressionOrSpread g .covering
    if ← sees "," false then return [e, ← mark "," false]
    else
      ensure (← sees ")" false)
      return [e]

def arrowFrom (s : Setting) (front : List Item) (o : Item) (es : List Item) (c : Item) :
    Parse Item := do
  let ps := Item.node .formalParameters (o :: (← recastPatterns .element es) ++ [c])
  arrowTail g s (front ++ [ps.inField .parameters])

def isSequence (es : List Item) : Bool :=
  (match es.getLast? with
   | some e => !(e.body.any fun t => !t.isNamed)
   | none => false) &&
    es.all fun e => !e.isAny [.spreadElement] && !e.isPatternOnly

def arrowOrParenthesized (s : Setting) : Parse Item := do
  let o ← mark "(" true
  let es ← coverList g
  let c ← mark ")" true
  if ← sees "=>" false then arrowFrom g s [] o es c
  else
    ensure (isSequence es)
    match es with
    | [e] => return Item.node .parenthesizedExpression [o, e, c]
    | _ => return Item.node .parenthesizedExpression [o, Item.node .sequenceExpression es, c]

def arrowWithParameters (s : Setting) (front : List Item) : Parse Item := do
  -- without an arrow ahead there is no need to read the parentheses twice
  ensure (hasArrow (← get))
  let o ← mark "(" true
  let es ← coverList g
  let c ← mark ")" true
  arrowFrom g s front o es c

def nameOrArrow (s : Setting) (front : List Item) (name : Item) : Parse Item := do
  if ← sees "=>" false then arrowTail g s (front ++ [name.inField .parameter])
  else
    ensure front.isEmpty
    return name

def asyncOperand (s : Setting) : Parse Item := do
  let name ← word .identifier true
  if s.semicolons && (← seesInserted true) then return name
  else
    let rest ← next false
    let front : Item := { name with body := [.token none "async"] }
    match Lexeme.word? rest with
    | some (w, _) =>
        if w == "function" then
          let f ← functionParts g true
          return { f with items := front :: f.items }.toExpression
        else if w == "in" || w == "instanceof" then return name
        else (do
          let p ← word .identifier false
          nameOrArrow g s [front] p) <|> pure name
    | none =>
        if Text.startsWith "(" rest then
          arrowWithParameters g s [front] <|> pure name
        else nameOrArrow g s [] name

/-!
# Suffixes
-/

/-- The kinds of expressions that may be called behind `?.`. -/
def primaryKinds : List Kind :=
  [.subscriptExpression, .memberExpression, .parenthesizedExpression, .identifier,
   .undefinedWord, .thisWord, .superWord, .number, .string, .templateString, .regex,
   .trueWord, .falseWord, .nullWord, .object, .array, .functionExpression, .arrowFunction,
   .generatorFunction, .classExpression, .metaProperty, .callExpression]

def memberName : Parse Item := do
  let name ←
    if ← sees "#" true then privateName true else word .propertyIdentifier true
  return name.inField .property

def subscript (front : List Item) : Parse Item := do
  let o ← mark "[" true
  let e ← expressions g .inner
  return Item.node .subscriptExpression
    (front ++ [o, e.inField .index, ← mark "]" false])

/-- One more member, call or update behind an operand, if the input goes on with one.
The flag `constructed` tells that the operand follows `new` and may not be called. -/
def suffix (s : Setting) (constructed : Bool) (i : Item) : Parse (Option Item) := do
  if s.semicolons && (← seesInserted true) then return none
  else
    match ← next false with
    | '.' :: rest =>
        -- three points begin the next element
        if Text.startsWith ".." rest then return none
        else return some (Item.node .memberExpression
          [i.inField .object, ← mark "." false, ← memberName])
    | '?' :: '.' :: c :: _ =>
        -- a question mark and a number
        if Lexeme.isDigit c then return none
        else
          let dots ← lexeme false fun t =>
            (Text.strip? "?." t).map fun rest => (.leaf none .optionalChain "?.", rest)
          let dots := dots.inField .optionalChain
          match ← next true with
          | '(' :: _ =>
              ensure (i.isAny primaryKinds)
              return some (Item.node .callExpression
                [i.inField .callee, dots, (← arguments g).inField .arguments])
          | '[' :: _ => return some (← subscript g [i.inField .object, dots])
          | _ => return some (Item.node .memberExpression [i.inField .object, dots, ← memberName])
    | '[' :: _ => return some (← subscript g [i.inField .object])
    | '(' :: _ =>
        if constructed then return none
        else return some (Item.node .callExpression
          [i.inField .callee, (← arguments g).inField .arguments])
    | '\x60' :: _ =>
        if constructed then return none
        else return some (Item.node .callExpression
          [i.inField .callee, (← templateString g false).inField .arguments])
    | c :: d :: _ =>
        if c == d && (c == '+' || c == '-') && !constructed && !s.withoutUpdate then
          let op ← mark (if c == '+' then "++" else "--") false
          return some (Item.node .updateExpression [i.inField .argument, op.inField .operator])
        else return none
    | _ => return none

/-- The word `import` as an operand: it must be called or have a member. -/
def importOperand (s : Setting) : Parse Item := do
  let i := Item.node .importWord [← keyword "import" true]
  let rest ← next false
  ensure (Text.startsWith "(" rest || Text.startsWith "." rest || Text.startsWith "\x60" rest ||
    (Text.startsWith "?." rest && !Text.startsWith "?.(" rest && !Text.startsWith "?.[" rest))
  match ← suffix g s.free false i with
  | some j => return j
  | none => failure

/-!
# Primary expressions
-/

def wordKind (w : Text) : Kind :=
  if w == "this" then .thisWord
  else if w == "super" then .superWord
  else if w == "true" then .trueWord
  else if w == "false" then .falseWord
  else if w == "null" then .nullWord
  else if w == "undefined" then .undefinedWord
  else .identifier

def prefixWords : List Text :=
  List.map String.toList ["new", "typeof", "void", "delete", "await", "yield"]

def wordOperand (s : Setting) (w : Text) : Parse Item := do
  if prefixWords.contains w then failure
  else if w == "function" then return (← functionParts g true).toExpression
  else if w == "class" then return (← classParts g []).toExpression
  else if w == "import" then importOperand g s
  else if w == "async" then asyncOperand g s
  else
    let name ← word (wordKind w) true
    if wordKind w == .identifier then nameOrArrow g s [] name else return name

/-- A name, a literal, a bracketed expression, a function or a class. -/
def primary (s : Setting) : Parse Item := do
  let t ← next true
  match t with
  | '(' :: _ => arrowOrParenthesized g s
  | '[' :: _ => literalOrPattern s (array g)
  | '{' :: _ => literalOrPattern s g.object
  | '/' :: _ => regexLiteral s
  | '@' :: _ =>
      let ds ← decorators g
      return (← classParts g ds).toExpression
  | '.' :: _ => number true
  | c :: _ =>
      if c == '"' || c == '\'' then string true
      else if c == '\x60' then templateString g true
      else if Lexeme.isDigit c then number true
      else
        match Lexeme.word? t with
        | some (w, _) => wordOperand g s w
        | none => failure
  | [] => failure

def chain : Parse Item := do
  grow (suffix g .inner false) (← primary g .inner)

/-!
# Operands
-/

def assignment (s : Setting) (i : Item) : Parse Item := do
  let ended := s.semicolons && (← seesInserted true)
  let rest ← next false
  match (if ended then none else Lexeme.operator? rest) with
  | some op =>
      if op == "=" then
        if i.isAny [.identifier, .undefinedWord, .memberExpression, .subscriptExpression,
            .parenthesizedExpression, .objectPattern, .arrayPattern] then
          return Item.node .assignmentExpression
            [i.inField .left, ← mark "=" false, (← expression g s.firm).inField .right]
        else failure
      else if Lexeme.assignmentOperators.contains op &&
          i.isAny [.identifier, .memberExpression, .subscriptExpression,
            .parenthesizedExpression] then
        let o ← lexeme false fun t => (Text.strip? op t).map fun rest => (.token none op, rest)
        return Item.node .augmentedAssignmentExpression
          [i.inField .left, o.inField .operator, (← expression g s.firm).inField .right]
      else return i
  | none => return i

def constructedBy (s : Setting) (kw constructor : Item) : Parse Item := do
  let front := [kw, constructor.inField .constructed]
  if s.semicolons && (← seesInserted true) then return Item.node .newExpression front
  else if ← sees "(" false then
    return Item.node .newExpression (front ++ [(← arguments g).inField .arguments])
  else return Item.node .newExpression front

/-- A constructor behind a row of `new`s, the nearest first. -/
def constructedByAll (s : Setting) : List Item → Item → Parse Item
  | [], i => pure i
  | kw :: rest, i => do constructedByAll s rest (← constructedBy g s kw i)

/-- An operand that starts with `new`: `new.target`, or constructors with their
arguments. -/
def newOperand (s : Setting) : Parse Item := do
  let kws ← whileSees (seesWord "new" true) do return [← keyword "new" true]
  let t ← next true
  -- a point that begins no number is that of `new.target`
  if Text.startsWith "." t && !(t.drop 1).head?.any Lexeme.isDigit then
    match kws.reverse with
    | [] => failure
    | kw :: outer =>
        let i := Item.node .metaProperty [kw, ← mark "." true, ← keyword "target" true]
        if outer.isEmpty then return i
        else constructedByAll g s outer (← grow (suffix g s true) i)
  else
    let first ←
      if ← seesWord "yield" true then
        pure (Item.node .yieldExpression [← keyword "yield" true])
      else primary g s.firm
    let i ← grow (suffix g s true) first
    ensure !(i.isAny [.objectPattern, .arrayPattern, .yieldExpression])
    constructedByAll g s kws.reverse i

def startsOperand (t : Text) : Bool :=
  match t with
  | [] => false
  | '.' :: rest => rest.head?.any Lexeme.isDigit
  | '<' :: rest => rest.head? != some '=' && rest.head? != some '<'
  | '!' :: rest => rest.head? != some '='
  | c :: _ =>
      "([\x7b\"'\x60/~+-@#".toList.contains c || Lexeme.isDigit c ||
        (match Lexeme.word? t with
         | some (w, _) => w != "in" && w != "instanceof"
         | none => false)

def yieldOperand (s : Setting) : Parse Item := do
  let kw ← keyword "yield" true
  if s.semicolons && (← seesInserted true) then return Item.node .yieldExpression [kw]
  else
    let rest ← next false
    if Lexeme.operator? rest == some "*" then
      return Item.node .yieldExpression [kw, ← mark "*" false, ← expression g s.firm]
    else if startsOperand rest && !(s.withoutIn && Lexeme.wordIs "of" rest) then
      return Item.node .yieldExpression [kw, ← expression g s.firm]
    else return Item.node .yieldExpression [kw]

/-- A private name and the object that is asked for it. -/
def privateIn (s : Setting) : Parse Item := do
  let name ← privateName true
  let op ← mark "in" false
  return Item.node .binaryExpression
    [name.inField .left, op.inField .operator, (← g.binary s.firm 8).inField .right]

def unary (s : Setting) (op : Parse Item) : Parse Item := do
  let op ← op
  return Item.node .unaryExpression
    [op.inField .operator, (← g.operand s.firm).inField .argument]

def prefixUpdate (s : Setting) (op : String) : Parse Item := do
  let op ← mark op true
  return Item.node .updateExpression
    [op.inField .operator, (← g.operand { s with withoutUpdate := true, cover := false }).inField .argument]

/-- An operand that starts with a prefix word, or a chain that may be assigned to. -/
def operandOfWord (s : Setting) (w : Text) : Parse Item := do
  let suffixes := grow (suffix g s false)
  if w == "typeof" then unary g s (keyword "typeof" true)
  else if w == "void" then unary g s (keyword "void" true)
  else if w == "delete" then unary g s (keyword "delete" true)
  else if w == "await" then
    return Item.node .awaitExpression [← keyword "await" true, ← g.operand s.firm]
  else if w == "yield" then assignment g s (← suffixes (← yieldOperand g s))
  else if w == "new" then assignment g s (← suffixes (← newOperand g s))
  else assignment g s (← suffixes (← primary g s))

def operand (s : Setting) : Parse Item := do
  let suffixes := grow (suffix g s false)
  let t ← next true
  match t with
  | '+' :: '+' :: _ => assignment g s (← suffixes (← prefixUpdate g s "++"))
  | '-' :: '-' :: _ => assignment g s (← suffixes (← prefixUpdate g s "--"))
  | '+' :: _ => unary g s (mark "+" true)
  | '-' :: _ => unary g s (mark "-" true)
  | '!' :: _ => unary g s (mark "!" true)
  | '~' :: _ => unary g s (mark "~" true)
  | '#' :: _ => privateIn g s
  | '<' :: _ =>
      let e ←
        if Text.startsWith "<template>" t then taggedTemplate
        else do g.element (← mark "<" true)
      assignment g s (← suffixes e)
  | _ =>
      match Lexeme.word? t with
      | some (w, _) => operandOfWord g s w
      | none => assignment g s (← suffixes (← primary g s))

/-!
# Binary and conditional expressions
-/

/-- Whether the white space in front of a question mark allows it to be the conditional
operator. -/
def conditionalGap (s : Setting) (lead : List Tree) : Bool :=
  match lead.getLast? with
  | some (.gap t) => t.all fun c => Lexeme.isSpace c || (s.semicolons && Lexeme.isSeparator c)
  | _ => true

/-- Joins an expression with what an operator of at least the given strength adds. -/
def extend (s : Setting) (least : Nat) (l : Item) : Parse (Option Item) := do
  if s.semicolons && (← seesInserted true) then return none
  else
    let (lead, rest) ← ahead false
    match Lexeme.operator? rest with
    | none => return none
    | some op =>
        if op == "?" then
          if least == 0 && conditionalGap s lead then
            let q ← mark "?" false
            let yes ← expression g .inner
            let c ← mark ":" false
            let no ← g.binary { s with cover := false } 0
            return some (Item.node .ternaryExpression
              [l.inField .condition, q, yes.inField .consequence, c, no.inField .alternative])
          else return none
        else
          match Lexeme.binaryOperators.find? (·.1 == op) with
          | some (_, strength) =>
              if strength < least || (op == "in" && s.withoutIn) then return none
              else
                let o ← lexeme false fun t =>
                  (Text.strip? op t).map fun rest => (.token none op, rest)
                -- all operators but the power group to the left
                let r ← g.binary { s with cover := false } (if op == "**" then strength else strength + 1)
                return some (Item.node .binaryExpression
                  [l.inField .left, o.inField .operator, r.inField .right])
          | none => return none

def binary (s : Setting) (least : Nat) : Parse Item := do
  grow (extend g s least) (← operand g s)

/-- Expressions of which the first starts with an operand already read. -/
def expressionsFrom (s : Setting) (first : Item) : Parse Item := do
  let i ← grow (suffix g s false) first
  let i ← grow (extend g s 0) (← assignment g s i)
  sequence g s i

end Parse
end ComponentDecl
