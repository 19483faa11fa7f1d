import ComponentDecl.Doc
import ComponentDecl.Inference
import ComponentDecl.Text.Letter
import ComponentDecl.Walk

/-!
# Tables of props

A table lists the props of a component by name, each with its declared type and its
documentation, in the order in which the names were first met.
-/

namespace ComponentDecl

structure PropEntry where
  type : Text
  doc : Option Text
  deriving DecidableEq, Repr

/-- Props by name, in order. -/
structure PropTable where
  entries : List (Text × PropEntry)
  deriving DecidableEq, Repr

namespace PropTable

def empty : PropTable := ⟨[]⟩

/-- Puts an entry into a list: in the place of one with the same name, or at the end. -/
def put (name : Text) (e : PropEntry) : List (Text × PropEntry) → List (Text × PropEntry)
  | [] => [(name, e)]
  | (n, d) :: rest => if n == name then (n, e) :: rest else (n, d) :: put name e rest

/-- Inserts a prop.  A name that is there already keeps its place. -/
def insert (t : PropTable) (name : Text) (e : PropEntry) : PropTable :=
  ⟨put name e t.entries⟩

def ofList (props : List (Text × PropEntry)) : PropTable :=
  props.foldl (fun t p => t.insert p.1 p.2) empty

end PropTable

/-!
# Names of members
-/

/-- Whether a text can stand as a name without quotes. -/
def isPlainName : Text → Bool
  | [] => false
  | c :: rest =>
      (Text.isLetter c || c == '_' || c == '$') &&
        rest.all fun d => Text.isLetter d || Text.isNumeral d || d == '_' || d == '$'

def unquoted (literal : Text) : Text :=
  (literal.drop 1).dropLast

/-- The member name for the key of an object literal.  A string loses its quotes if
the rest is a plain name. -/
def Cursor.memberName? (key : Cursor) : Option Text :=
  match key.kind? with
  | some .propertyIdentifier | some .identifier | some .number => some key.text
  | some .string =>
      some (if isPlainName (unquoted key.text) then unquoted key.text else key.text)
  | _ => none

/-!
# Reading a table from an object literal
-/

namespace PropTable

/-- Enters a pair of an object literal into a table, if it belongs to the object
itself. -/
def enterPair (o : InferenceOptions) (object pair : Cursor) (t : PropTable) :
    Logged PropTable :=
  if pair.isChildOf object then
    match pair.fieldNamed .key, pair.fieldNamed .value with
    | some key, some value =>
        match key.memberName? with
        | none => do
            Logged.tell (.keySkipped key.text)
            return t
        | some name => do
            let type := value.tree.declaredType o
            Logged.tell (.propInferred name type)
            return t.insert name ⟨type, pair.doc?⟩
    | _, _ => pure t
  else pure t

def untypedKinds : List Kind :=
  [.spreadElement, .shorthandPropertyIdentifier, .methodDefinition]

def tellUntyped : List Cursor → Logged Unit
  | [] => pure ()
  | c :: rest => do
      match c.kind? with
      | some k =>
          if untypedKinds.contains k then Logged.tell (.entrySkipped k.spelling c.text)
      | none => pure ()
      tellUntyped rest

def ofObject (o : InferenceOptions) (object : Cursor) : Logged PropTable := do
  let handlers := Handlers.empty.on (Kind.pair).spelling (enterPair o object)
  let table ← walk handlers object empty
  tellUntyped object.namedChildren
  return table

end PropTable
end ComponentDecl
