import ComponentDecl.Declaration
import ComponentDecl.JsonValue

/-!
# Configuration

A configuration file is a JSON object with up to three texts, or an array of up to
three.  What it does not set has its default.
-/

namespace ComponentDecl

structure Config where
  library : Option Text := none
  libraryModule : Option Text := none
  indent : Option Text := none
  deriving DecidableEq, Repr

namespace Config

/-- The name of the file that is read if no other is given. -/
def defaultName : Text := "react-dts.config.json"

def keyed? : List (List Piece × JsonValue) → Option (List (Text × JsonValue))
  | [] => some []
  | (key, v) :: rest => do
      let key ← Piece.text? key
      let rest ← keyed? rest
      return (key, v) :: rest

/-- The text under a key, which may stand there only once. -/
def field? (name : Text) (members : List (Text × JsonValue)) : Option (Option Text) :=
  match members.filter fun m => m.1 == name with
  | [] => some none
  | [m] => m.2.textOrNull?
  | _ => none

/-- The configuration of an object's members.  Other members do not matter. -/
def ofMembers? (members : List (List Piece × JsonValue)) : Option Config := do
  let members ← keyed? members
  let library ← field? "library" members
  let libraryModule ← field? "libraryModule" members
  let indent ← field? "indent" members
  return ⟨library, libraryModule, indent⟩

/-- The configuration of an array's elements, in the order of the fields. -/
def ofElements? : List JsonValue → Option Config
  | [] => some {}
  | [a] => do return { library := ← a.textOrNull? }
  | [a, b] => do return { library := ← a.textOrNull?, libraryModule := ← b.textOrNull? }
  | [a, b, c] => do
      return ⟨← a.textOrNull?, ← b.textOrNull?, ← c.textOrNull?⟩
  | _ => none

def ofJson? : JsonValue → Option Config
  | .object members => ofMembers? members
  | .array elements => ofElements? elements
  | _ => none

def ofText? (t : Text) : Option Config := do
  ofJson? (← JsonValue.read? t)

def options (c : Config) : Options :=
  let d : Options := {}
  { d with
    library := c.library.getD d.library
    libraryModule := c.libraryModule.getD d.libraryModule
    indent := c.indent.getD d.indent }

end Config
end ComponentDecl
