import ComponentDecl.Parse.Expression

/-!
# Statements
-/

namespace ComponentDecl
namespace Parse

variable (g : Grammar)

/-!
# Expressions and blocks as statements
-/

def expressionStatement : Parse Item := do
  return Item.node .expressionStatement [← expressions g .ending, ← semicolon true]

/-- A statement that starts with an operand already read. -/
def statementFrom (first : Item) : Parse Item := do
  return Item.node .expressionStatement [← expressionsFrom g .ending first, ← semicolon true]

/-- Whether an operator follows that no statement starts with. -/
def seesOnlyContinuation : Parse Bool := do
  if ← seesInserted true then return false
  else
    match Lexeme.operator? (← next false) with
    | some op =>
        if op == "in" || op == "instanceof" then return Lexeme.wordIs op (← next false)
        else return Lexeme.onlyContinues op
    | none => return false

/-- A block, or an object where only an object fits.  Empty braces are an object if an
operator follows that no statement starts with; what opens with a label is an object if
it can be one. -/
def bracedStatement : Parse Item := do
  let t ← next true
  if opensEmpty t then
    (do
      let b ← blockWhere g id
      -- the braces are no block if they are an operand or are assigned to
      ensure !(← seesOnlyContinuation)
      ensure !(← seesAssign)
      return b) <|> expressionStatement g
  else if opensBlock t then blockWhere g id
  else if opensWithLabel t then expressionStatement g <|> blockWhere g id
  else blockWhere g id <|> expressionStatement g

def emptyStatement : Parse Item := do
  return Item.node .emptyStatement [← mark ";" true]

/-!
# Declarations
-/

def declarator (s : Setting) : Parse Item := do
  let name := (← binding g).inField .name
  if !(← seesInserted false) && (← seesAssign) then
    return Item.node .variableDeclarator (name :: (← initializer g s))
  else return Item.node .variableDeclarator [name]

def endsInValue (items : List Item) : Bool :=
  match items.getLast? with
  | some i => i.body.any fun t => t.children.any fun c => c.field == some .value
  | none => false

def declarators : Parse (List Item) := do
  let first ← declarator g .ending
  let more ← whileSees
    (do return !(← seesInserted false) && (← sees "," false)) do
    return [← mark "," false, ← declarator g .ending]
  let all := first :: more
  -- an operator could only follow an initial value
  return all ++ [← semicolon (endsInValue all)]

def variableDeclaration : Parse Item := do
  return Item.node .variableDeclaration ((← keyword "var" true) :: (← declarators g))

def lexicalDeclaration (w : String) : Parse Item := do
  return Item.node .lexicalDeclaration
    ((← keyword w true).inField .kind :: (← declarators g))

def letDeclares : Parse Bool := do
  match Lexeme.word? (← next true) with
  | some (_, rest) =>
      if (inserted? true rest).isSome then return false
      else
        let (_, after) := Lexeme.trivia false rest
        -- in front of these two words `let` is an operand
        match Lexeme.word? after with
        | some (w, _) => return w != "in" && w != "instanceof"
        | none => return Text.startsWith "[" after || Text.startsWith "\x7b" after
  | none => return false

def asyncDeclares : Parse Bool := do
  match Lexeme.word? (← next true) with
  | some (w, rest) =>
      return w == "async" && (inserted? true rest).isNone &&
        Lexeme.wordIs "function" (Lexeme.trivia false rest).2
  | none => return false

/-- A function that is declared, or the operand of an expression statement if it has no
name or an operator follows that no statement starts with. -/
def functionStatement : Parse Item := do
  let f ← functionParts g true
  if f.named && !(← seesOnlyContinuation) then
    return f.toDeclaration (← optionalInserted true)
  else statementFrom g f.toExpression

/-- A class that is declared, or the operand of an expression statement. -/
def classStatement (front : List Item) : Parse Item := do
  let c ← classParts g front
  if c.named && !(← seesOnlyContinuation) then
    return c.toDeclaration (← optionalInserted true)
  else statementFrom g c.toExpression

/-!
# Branching
-/

def condition : Parse Item := do
  return (← parenthesized g).inField .condition

def body : Parse Item := do
  return (← g.statement).inField .body

def ifStatement : Parse Item := do
  let kw ← keyword "if" true
  let c ← condition g
  let yes := (← g.statement).inField .consequence
  let no ←
    if ← seesWord "else" true then
      pure [(Item.node .elseClause [← keyword "else" true, ← g.statement]).inField .alternative]
    else pure []
  return Item.node .ifStatement ([kw, c, yes] ++ no)

def atCase (t : Text) : Bool :=
  atBrace t || Lexeme.wordIs "case" t || Lexeme.wordIs "default" t

def caseBody : Parse (List Item) := do
  return (← statements g atCase).map (Item.inField .body)

def switchCase : Parse Item := do
  if ← seesWord "case" true then
    let front := [← keyword "case" true, (← expressions g .inner).inField .value, ← mark ":" false]
    return Item.node .switchCase (front ++ (← caseBody g))
  else
    let front := [← keyword "default" true, ← mark ":" true]
    return Item.node .switchDefault (front ++ (← caseBody g))

def switchStatement : Parse Item := do
  let kw ← keyword "switch" true
  let value := (← parenthesized g).inField .value
  let o ← mark "\x7b" true
  let cases ← whileSees (do return !atBrace (← next true)) do return [← switchCase g]
  let inside := Item.node .switchBody (o :: cases ++ [← mark "\x7d" true])
  return Item.node .switchStatement [kw, value, inside.inField .body]

def tryStatement : Parse Item := do
  let kw ← keyword "try" true
  let inside := (← block g false).inField .body
  let handler ←
    if ← seesWord "catch" true then
      let c ← keyword "catch" true
      let parameter ←
        if ← sees "(" true then
          pure [← mark "(" true, (← binding g).inField .parameter, ← mark ")" true]
        else pure []
      let b := (← block g false).inField .body
      pure [(Item.node .catchClause (c :: parameter ++ [b])).inField .handler]
    else pure []
  let finalizer ←
    if ← seesWord "finally" true then
      pure [(Item.node .finallyClause
        [← keyword "finally" true, (← block g false).inField .body]).inField .finalizer]
    else pure []
  return Item.node .tryStatement ([kw, inside] ++ handler ++ finalizer)

/-!
# Loops
-/

/-- The operator of a loop over the members of a value. -/
def loopOperator : Parse Item := do
  let op ← if ← sees "in" false then mark "in" false else mark "of" false
  return op.inField .operator

def bracketedTarget : Parse Item :=
  (do
    let p ← parenthesized g
    ensure !(← seesSuffix)
    return p) <|> place g

/-- Refuses an automatic semicolon in the head of a loop that could be a counting one. -/
def noSemicolon (counting operators : Bool) : Parse Unit := do
  ensure !(counting && (← seesInserted operators))

/-- A declared variable of a loop over members, after its keyword. -/
def loopVariable (counting : Bool) (kw : Parse Item) (valued : Bool) : Parse (List Item) := do
  let front := [(← kw).inField .kind, (← binding g).inField .left]
  noSemicolon counting false
  if valued && (← seesAssign) then
    let all := front ++ (← initializer g { Setting.inner with withoutIn := true })
    noSemicolon counting true
    return all
  else return front

/-- Whether a target is a pattern with more in it than one name. -/
def isRichPattern (p : Item) : Bool :=
  match p.body with
  | [.branch _ .arrayPattern cs] => cs.any Tree.isNamed
  | [.branch _ .objectPattern cs] =>
      match cs.filter Tree.isNamed with
      | [] => false
      | [t] => t.kind? != some .shorthandPropertyIdentifierPattern
      | _ => true
  | _ => false

/-- A target of a loop over members that declares nothing. -/
def loopPlace (counting : Bool) (place : Parse Item) : Parse (List Item) := do
  let p ← place
  noSemicolon (counting && !isRichPattern p) true
  return [p.inField .left]

def loopTarget (counting : Bool) : Parse (List Item) := do
  let t ← next true
  match Lexeme.word? t with
  | some (w, rest) =>
      let (_, after) := Lexeme.trivia false rest
      let named := !(Lexeme.wordIs "in" after || Lexeme.wordIs "of" after)
      if w == "var" then loopVariable g counting (keyword "var" true) true
      else if w == "const" then loopVariable g counting (keyword "const" true) false
      -- `let` declares a variable only if a name of another follows
      else if w == "let" && !(counting && (inserted? true rest).isSome) &&
          (named && startsName after || Text.startsWith "\x7b" after) then
        loopVariable g counting (keyword "let" true) false
      else loopPlace counting (target g)
  | none =>
      if Text.startsWith "(" t then loopPlace counting (bracketedTarget g)
      else loopPlace counting (target g)

/-- A loop over the members of a value.  With `await` it is no counting loop. -/
def forInStatement : Parse Item := do
  let kw ← keyword "for" true
  let await ← optionalKeyword "await"
  let o ← mark "(" true
  let front ← loopTarget g await.isEmpty
  let op ← loopOperator
  let right := (← expressions g .inner).inField .right
  let c ← mark ")" false
  return Item.node .forInStatement
    (kw :: await ++ o :: front ++ [op, right, c, ← body g])

def loopStart : Parse Item := do
  let t ← next true
  let i ←
    if Text.startsWith ";" t then emptyStatement
    else if Lexeme.wordIs "var" t then variableDeclaration g
    else if Lexeme.wordIs "const" t then lexicalDeclaration g "const"
    else if Lexeme.wordIs "let" t && (← letDeclares) then lexicalDeclaration g "let"
    else expressionStatement g
  return i.inField .initializer

def forStatement : Parse Item := do
  let kw ← keyword "for" true
  let o ← mark "(" true
  let start ← loopStart g
  let test ← if ← sees ";" true then emptyStatement else expressionStatement g
  let step ←
    if ← sees ")" true then pure []
    else pure [(← expressions g .inner).inField .increment]
  let c ← mark ")" true
  return Item.node .forStatement
    ([kw, o, start, test.inField .condition] ++ step ++ [c, ← body g])

def whileStatement : Parse Item := do
  return Item.node .whileStatement [← keyword "while" true, ← condition g, ← body g]

/-- The body of a `do` statement.  Braces before a semicolon are an object. -/
def doBody : Parse Item :=
  (do
    let b ← body g
    ensure !(b.isAny [.statementBlock] && (← sees ";" true))
    return b) <|> (do return (← expressionStatement g).inField .body)

def doStatement : Parse Item := do
  let front := [← keyword "do" true, ← doBody g, ← keyword "while" true, ← condition g]
  let tail ← (do return [← semicolon false]) <|> pure []
  return Item.node .doStatement (front ++ tail)

def withStatement : Parse Item := do
  return Item.node .withStatement
    [← keyword "with" true, (← parenthesized g).inField .object, ← body g]

/-!
# Jumps and labels
-/

def jump (w : String) (k : Kind) : Parse Item := do
  let kw ← keyword w true
  -- a label stands on the line of the keyword
  if ← seesInserted false then return Item.node k [kw, ← semicolon false]
  else if ← sees ";" false then return Item.node k [kw, ← semicolon false]
  else
    return Item.node k
      [kw, (← word .statementIdentifier false).inField .label, ← semicolon false]

def returnStatement : Parse Item := do
  let kw ← keyword "return" true
  if (← seesInserted false) || (← sees ";" false) then
    return Item.node .returnStatement [kw, ← semicolon false]
  else return Item.node .returnStatement [kw, ← expressions g .ending, ← semicolon true]

def throwStatement : Parse Item := do
  return Item.node .throwStatement
    [← keyword "throw" true, ← expressions g .ending, ← semicolon true]

def debuggerStatement : Parse Item := do
  return Item.node .debuggerStatement [← keyword "debugger" true, ← semicolon false]

/-- The words that start an operand of their own and so label nothing. -/
def operandWords : List Text :=
  List.map String.toList
    ["this", "super", "true", "false", "null", "undefined", "new", "typeof", "void", "delete",
     "await", "yield"]

def labeledStatement : Parse Item := do
  let label := (← word .statementIdentifier true).inField .label
  return Item.node .labeledStatement [label, ← mark ":" false, ← body g]

/-- A statement that starts with a word of no special meaning. -/
def plainStatement (w rest : Text) : Parse Item := do
  let labels := Text.startsWith ":" (Lexeme.trivia false rest).2 && !operandWords.contains w
  if labels then labeledStatement g else expressionStatement g

end Parse
end ComponentDecl
