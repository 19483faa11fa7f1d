import ComponentDecl.Lexeme.Semicolon
import ComponentDecl.Lexeme.Operator
import ComponentDecl.Lexeme.Number
import ComponentDecl.Lexeme.Quoted
import ComponentDecl.Lexeme.Markup

/-!
# Parsing

A parser reads a construct from the head of a text and leaves the rest, or fails.
What it builds is an item: the trivia in front of the construct and the trees of the
construct itself.  Trivia in front of the first lexeme of a node stays outside the
node, so every comment becomes a child of the smallest node that has lexemes on both
sides of it.
-/

namespace ComponentDecl

/-- A parser of constructs of type `α`.  A failure tells how many characters were left
at the place where the input could not be read further. -/
abbrev Parse (α : Type) := StateT Text (Except Nat) α

namespace Parse

/-!
# Failure and choice

Of two parsers that both fail the one that read further tells where.
-/

instance : Alternative Parse where
  failure := fun t => .error t.length
  orElse p q := fun t =>
    match p t with
    | .ok r => .ok r
    | .error m =>
        match q () t with
        | .ok r => .ok r
        | .error n => .error (min m n)

/-!
# Items
-/

/-- A construct and the trivia in front of it. -/
structure Item where
  lead : List Tree
  body : List Tree

namespace Item

def trees (items : List Item) : List Tree :=
  items.flatMap fun i => i.lead ++ i.body

/-- The node made of a row of items.  The trivia of the first stay in front of it. -/
def node (kind : Kind) : List Item → Item
  | [] => ⟨[], [.branch none kind []]⟩
  | i :: rest => ⟨i.lead, [.branch none kind (i.body ++ trees rest)]⟩

def inField (f : Field) (i : Item) : Item :=
  { i with body := i.body.map (Tree.inField f) }

def kind? (i : Item) : Option Kind :=
  match i.body with
  | [t] => t.kind?
  | _ => none

def isAny (kinds : List Kind) (i : Item) : Bool :=
  match i.kind? with
  | some k => kinds.contains k
  | none => false

def endsInBrace (i : Item) : Bool :=
  (Tree.textAll i.body).getLast? == some '}'

/-- A leaf as another kind. -/
def recast (k : Kind) (i : Item) : Item :=
  { i with body := i.body.map fun
      | .leaf f _ t => .leaf f k t
      | t => t }

end Item

/-!
# Looking ahead

The flag of the next functions tells whether comments in the manner of HTML are
recognised.
-/

/-- The trivia at the head of the input and what follows them; nothing is read. -/
def ahead (html : Bool) : Parse (List Tree × Text) := fun t =>
  .ok (Lexeme.trivia html t, t)

def next (html : Bool) : Parse Text := do
  let (_, rest) ← ahead html
  return rest

def sees (s : String) (html : Bool) : Parse Bool := do
  let rest ← next html
  return Text.startsWith s rest

def seesWord (w : String) (html : Bool) : Parse Bool := do
  let rest ← next html
  return Lexeme.wordIs w rest

/-- The number of characters left: no loop over the input is longer. -/
def left : Parse Nat := fun t => .ok (t.length, t)

/-!
# Reading lexemes
-/

/-- Reads trivia and a lexeme that `scan` recognises. -/
def lexeme (html : Bool) (scan : Text → Option (Tree × Text)) : Parse Item := fun t =>
  let (lead, rest) := Lexeme.trivia html t
  match scan rest with
  | some (tree, more) => .ok (⟨lead, [tree]⟩, more)
  | none => .error rest.length

def mark (s : String) (html : Bool) : Parse Item :=
  lexeme html fun t => (Text.strip? s t).map fun rest => (.token none s, rest)

def keyword (w : String) (html : Bool) : Parse Item :=
  lexeme html fun t =>
    match Lexeme.word? t with
    | some (v, rest) => if v == w then some (.token none v, rest) else none
    | none => none

def word (k : Kind) (html : Bool) : Parse Item :=
  lexeme html fun t => (Lexeme.word? t).map fun (w, rest) => (.leaf none k w, rest)

def string (html : Bool) : Parse Item :=
  lexeme html Lexeme.string?

def number (html : Bool) : Parse Item :=
  lexeme html fun t => (Lexeme.number? t).map fun (n, rest) => (.leaf none .number n, rest)

def privateName (html : Bool) : Parse Item :=
  lexeme html fun t =>
    (Lexeme.privateName? t).map fun (n, rest) => (.leaf none .privatePropertyIdentifier n, rest)

def ensure (b : Bool) : Parse Unit :=
  if b then pure () else failure

/-!
# Automatic semicolons
-/

def insertedWithin (operators : Bool) : Nat → Text → Option (List Tree × Text)
  | 0, _ => none
  | fuel + 1, t =>
      if Lexeme.insertsSemicolon operators t then some ([], t)
      else
        match Lexeme.commentAhead? false t with
        | some (trees, rest) =>
            (insertedWithin operators fuel rest).map fun (more, rest) => (trees ++ more, rest)
        | none => none

/-- The trivia in front of an automatic semicolon, and the rest, if one is inserted. -/
def inserted? (operators : Bool) (t : Text) : Option (List Tree × Text) :=
  insertedWithin operators (t.length + 1) t

def seesInserted (operators : Bool) : Parse Bool := fun t =>
  .ok ((inserted? operators t).isSome, t)

/-- Reads an automatic semicolon: an item of trivia only. -/
def insertedSemicolon (operators : Bool) : Parse Item := fun t =>
  match inserted? operators t with
  | some (lead, rest) => .ok (⟨lead, []⟩, rest)
  | none => .error t.length

def semicolon (operators : Bool) : Parse Item :=
  insertedSemicolon operators <|> mark ";" false

def optionalInserted (operators : Bool) : Parse (List Item) :=
  (do return [← insertedSemicolon operators]) <|> pure []

/-- Refuses a comment in the manner of HTML: where an automatic semicolon could have been
it is not recognised. -/
def noHtmlComment : Parse Unit := do
  ensure ((← seesInserted true) || (Lexeme.htmlComment? (← next false)).isNone)

/-!
# Loops
-/

/-- Reads items as long as `more` wants one, at most `fuel` of them. -/
def whileWithin (more : Parse Bool) (item : Parse (List Item)) : Nat → Parse (List Item)
  | 0 => pure []
  | fuel + 1 => do
      if ← more then
        let first ← item
        let rest ← whileWithin more item fuel
        return first ++ rest
      else return []

def whileSees (more : Parse Bool) (item : Parse (List Item)) : Parse (List Item) := do
  whileWithin more item ((← left) + 1)

/-- Extends an item as long as `extend` can, at most `fuel` times. -/
def growWithin (extend : Item → Parse (Option Item)) : Nat → Item → Parse Item
  | 0, i => pure i
  | fuel + 1, i => do
      match ← extend i with
      | some j => growWithin extend fuel j
      | none => return i

def grow (extend : Item → Parse (Option Item)) (i : Item) : Parse Item := do
  growWithin extend ((← left) + 1) i

/-- Reads elements that may be absent, parted by commas, up to a closing mark. -/
def listed (close : String) (element : Parse Item) : Parse (List Item) := do
  whileSees (do return !(← sees close true)) do
    if ← sees "," true then return [← mark "," true]
    else
      let e ← element
      if ← sees "," false then return [e, ← mark "," false]
      else
        ensure (← sees close false)
        return [e]

end Parse
end ComponentDecl
