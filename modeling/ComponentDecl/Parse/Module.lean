import ComponentDecl.Parse.Statement

/-!
# Modules

Imports, exports, the choice among statements by their first word, and the grammar
of a whole source.
-/

namespace ComponentDecl
namespace Parse

variable (g : Grammar)

/-!
# Imports
-/

/-- A name or a string that a module exports or imports under. -/
def exportedName : Parse Item := do
  match ← next true with
  | c :: _ => if c == '"' || c == '\'' then string true else word .identifier true
  | [] => failure

def namespaceImport : Parse Item := do
  return Item.node .namespaceImport
    [← mark "*" true, ← keyword "as" true, ← word .identifier true]

def importSpecifier : Parse Item := do
  let name ← exportedName
  if ← seesWord "as" true then
    return Item.node .importSpecifier
      [name.inField .name, ← keyword "as" true, (← word .identifier true).inField .alias]
  else
    ensure (name.isAny [.identifier])
    return Item.node .importSpecifier [name.inField .name]

/-- Elements parted by commas, with a comma after the last or alone at will. -/
def trailed (element : Parse Item) : Parse (List Item) := do
  if ← sees "," true then
    let comma ← mark "," true
    ensure (← sees "\x7d" true)
    return [comma]
  else
    whileSees (do return !(← sees "\x7d" true)) do
      let e ← element
      if ← sees "," true then return [e, ← mark "," true]
      else
        ensure (← sees "\x7d" true)
        return [e]

def namedImports : Parse Item := do
  let o ← mark "\x7b" true
  let es ← trailed importSpecifier
  return Item.node .namedImports (o :: es ++ [← mark "\x7d" true])

def importGroup : Parse Item := do
  if ← sees "*" true then namespaceImport else namedImports

def importClause : Parse Item := do
  let rest ← next true
  if Text.startsWith "*" rest || Text.startsWith "\x7b" rest then
    return Item.node .importClause [← importGroup]
  else
    let name ← word .identifier true
    if ← sees "," true then
      return Item.node .importClause [name, ← mark "," true, ← importGroup]
    else return Item.node .importClause [name]

def fromClause : Parse (List Item) := do
  return [← keyword "from" true, (← string true).inField .source]

def importStatement : Parse Item := do
  let kw ← keyword "import" true
  let front ←
    match ← next true with
    | c :: _ =>
        if c == '"' || c == '\'' then pure [(← string true).inField .source]
        else do
          let clause ← importClause
          pure (clause :: (← fromClause))
    | [] => failure
  let attributes ←
    if (← seesInserted false) || !(← seesWord "with" false) then pure []
    else do
      let kw ← keyword "with" false
      let o ← g.object
      ensure !o.isPatternOnly
      pure [Item.node .importAttribute [kw, o]]
  return Item.node .importStatement (kw :: front ++ attributes ++ [← semicolon false])

/-- Whether the word `import` at the head of the input is an operand. -/
def importIsOperand (rest : Text) : Bool :=
  let after := (Lexeme.trivia false rest).2
  Text.startsWith "(" after || Text.startsWith "." after || Text.startsWith "\x60" after ||
    Text.startsWith "?." after

/-!
# Exports
-/

def exportSpecifier : Parse Item := do
  let name := (← exportedName).inField .name
  if ← seesWord "as" true then
    return Item.node .exportSpecifier
      [name, ← keyword "as" true, (← exportedName).inField .alias]
  else return Item.node .exportSpecifier [name]

def exportClause : Parse Item := do
  let o ← mark "\x7b" true
  let es ← trailed exportSpecifier
  return Item.node .exportClause (o :: es ++ [← mark "\x7d" true])

/-- Everything of a module, under one name or not. -/
def exportAll : Parse (List Item) := do
  let star ← mark "*" true
  let front ←
    if ← seesWord "as" true then
      pure (Item.node .namespaceExport [star, ← keyword "as" true, ← exportedName])
    else pure star
  return front :: (← fromClause) ++ [← semicolon false]

def exportNames : Parse (List Item) := do
  let clause ← exportClause
  let front ←
    if (← seesInserted false) || !(← seesWord "from" false) then pure []
    else fromClause
  return clause :: front ++ [← semicolon false]

/-- A declaration, if the input goes on with the first word of one. -/
def declaration (operators : Bool) : Parse Item := do
  let t ← next true
  if Lexeme.wordIs "function" t || Lexeme.wordIs "async" t then
    let f ← functionParts g operators
    ensure (f.named && !(operators && (← seesOnlyContinuation)))
    return f.toDeclaration (← optionalInserted operators)
  else if Lexeme.wordIs "class" t || Text.startsWith "@" t then
    let c ← classParts g (← decorators g)
    ensure (c.named && !(operators && (← seesOnlyContinuation)))
    return c.toDeclaration (← optionalInserted operators)
  else if Lexeme.wordIs "var" t then variableDeclaration g
  else if Lexeme.wordIs "const" t then lexicalDeclaration g "const"
  else if Lexeme.wordIs "let" t then lexicalDeclaration g "let"
  else failure

def exportDefault : Parse (List Item) := do
  let kw ← keyword "default" true
  let t ← next true
  if Lexeme.wordIs "var" t || Lexeme.wordIs "const" t then
    return [kw, (← declaration g true).inField .declaration]
  else (do
    ensure (!(← seesWord "async" true) || (← asyncDeclares))
    ensure (!(← seesWord "let" true) || (← letDeclares))
    return [kw, (← declaration g true).inField .declaration]) <|>
  (do return [kw, (← expression g .ending).inField .value, ← semicolon true])

def exportStatement (front : List Item) : Parse Item := do
  let front := front ++ [← keyword "export" true]
  let t ← next true
  let plain := front.length == 1
  let rest ←
    if plain && Text.startsWith "*" t then exportAll
    else if plain && Text.startsWith "\x7b" t then exportNames
    else if Lexeme.wordIs "default" t then exportDefault g
    else do pure [(← declaration g false).inField .declaration]
  return Item.node .exportStatement (front ++ rest)

def exportIsStatement (rest : Text) : Bool :=
  let after := (Lexeme.trivia true rest).2
  (inserted? true rest).isNone &&
    (Lexeme.operator? after == some "*" || Text.startsWith "\x7b" after || Text.startsWith "@" after ||
      (match Lexeme.word? after with
       | some (w, _) =>
           ["default", "class", "function", "async", "var", "let", "const"].any (·.toList == w)
       | none => false))

/-!
# Statements
-/

def decoratedStatement : Parse Item := do
  let ds ← decorators g
  if ← seesWord "export" true then exportStatement g ds else classStatement g ds

/-- A statement that starts with the word `w`, before `rest`. -/
def statementOfWord (w rest : Text) : Parse Item := do
  if w == "export" && exportIsStatement rest then exportStatement g []
  else if w == "import" && !importIsOperand rest then importStatement g
  else if w == "var" then variableDeclaration g
  else if w == "const" then lexicalDeclaration g "const"
  else if w == "let" && (← letDeclares) then lexicalDeclaration g "let"
  else if w == "function" then functionStatement g
  else if w == "async" && (← asyncDeclares) then functionStatement g
  else if w == "class" then classStatement g []
  else if w == "if" then ifStatement g
  else if w == "switch" then switchStatement g
  else if w == "for" then forInStatement g <|> forStatement g
  else if w == "while" then whileStatement g
  else if w == "do" then doStatement g
  else if w == "try" then tryStatement g
  else if w == "with" then withStatement g
  else if w == "break" then jump "break" .breakStatement
  else if w == "continue" then jump "continue" .continueStatement
  else if w == "return" then returnStatement g
  else if w == "throw" then throwStatement g
  else if w == "debugger" then debuggerStatement
  else plainStatement g w rest

def statement : Parse Item := do
  let t ← next true
  match t with
  | '{' :: _ => bracedStatement g
  | ';' :: _ => emptyStatement
  | '@' :: _ => decoratedStatement g
  | _ =>
      match Lexeme.word? t with
      | some (w, rest) => statementOfWord g w rest
      | none => expressionStatement g

/-!
# Whole sources
-/

/-- The grammar for constructs nested at most `depth` deep. -/
def grammar : Nat → Grammar
  | 0 => Grammar.empty
  | depth + 1 => {
      binary := fun s least => binary (grammar depth) s least
      operand := fun s => operand (grammar depth) s
      chain := fun t => chain (grammar depth) t
      pattern := fun t => pattern (grammar depth) t
      object := fun t => objectLiteral (grammar depth) t
      element := fun o => element (grammar depth) o
      statement := fun t => statement (grammar depth) t }

/-- The line for the system at the start of a source. -/
def systemLine : Parse (List Item) := do
  if ← sees "#!" true then
    return [← lexeme true fun t =>
      let (line, rest) := t.span (· != '\n')
      some (.leaf none .hashBangLine line, rest)]
  else return []

def program (depth : Nat) : Parse Tree := do
  let front ← systemLine
  let items := front ++ (← statements (grammar depth) List.isEmpty)
  let (trail, rest) ← ahead true
  ensure rest.isEmpty
  return .branch none .program (Item.trees items ++ trail)

/-- The tree of a source that the grammar accepts; otherwise how many characters are left
at the place where it cannot be read further. -/
def readProgram (source : Text) : Except Nat Tree :=
  (program (source.length + 2)).run' source

end Parse
end ComponentDecl
