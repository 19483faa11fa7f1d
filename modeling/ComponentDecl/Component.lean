import ComponentDecl.Module
import ComponentDecl.Props

/-!
# Finding the component

The component of a module is the class in its first default export.  Further default
exports, and classes inside the component, are noticed and left alone.  The props of
the component are those of the last field `propTypes` of the class itself.
-/

namespace ComponentDecl

/-- A class that is declared: its name, its documentation and the table of its props. -/
structure Component where
  name : Text
  doc : Option Text
  props : Option PropTable
  deriving DecidableEq, Repr

namespace Cursor

/-!
# The default export
-/

/-- Keeps the first default export and notices further ones. -/
def keepExport (c : Cursor) (found : Option Cursor) : Logged (Option Cursor) :=
  if c.hasToken "default" then
    match found with
    | some e => do
        Logged.tell (.exportIgnored c.span.line)
        return some e
    | none => do
        Logged.tell (.exportFound c.span.line)
        return some c
  else pure found

def defaultExport (c : Cursor) : Logged (Option Cursor) :=
  walk (Handlers.empty.on (Kind.exportStatement).spelling keepExport) c none

/-!
# The class
-/

def classLabel (c : Cursor) : Text :=
  match c.fieldNamed .name with
  | some n => n.text
  | none => "<anonymous>"

def keepClass (c : Cursor) (found : Option Cursor) : Logged (Option Cursor) :=
  match found with
  | some d => do
      Logged.tell (.classIgnored c.span.line c.classLabel d.classLabel)
      return some d
  | none => pure (some c)

/-- Keeps a class expression only if it is the exported value itself. -/
def keepExportedClass (e c : Cursor) (found : Option Cursor) : Logged (Option Cursor) :=
  if c.isChildOf e then keepClass c found else pure found

def exportedClass (e : Cursor) : Logged (Option Cursor) :=
  walk
    ((Handlers.empty.on (Kind.classDeclaration).spelling keepClass).on
      (Kind.classExpression).spelling (keepExportedClass e))
    e none

/-- The component class of an export with its name.  A class without a name is none. -/
def componentClass (e : Cursor) : Logged (Option (Cursor × Text)) := do
  match ← exportedClass e with
  | none => return none
  | some c =>
      match c.fieldNamed .name with
      | some n => return some (c, n.text)
      | none => do
          Logged.tell (.anonymousSkipped c.span.line)
          return none

/-!
# The props
-/

/-- Keeps a field of the body itself that is named `propTypes`. -/
def keepPropTypes (body c : Cursor) (found : Option Cursor) : Logged (Option Cursor) :=
  let named :=
    match c.fieldNamed .property with
    | some p => p.text == "propTypes"
    | none => false
  pure (if c.isChildOf body && named then some c else found)

def propTypesValue (c : Cursor) : Logged (Option Cursor) :=
  match c.fieldNamed .body with
  | none => pure none
  | some body => do
      let handlers := Handlers.empty.on (Kind.fieldDefinition).spelling (keepPropTypes body)
      let field ← walk handlers body none
      return field.bind (fieldNamed .value)

/-- The table of the props of a class, if an object literal gives it. -/
def propTable (o : InferenceOptions) (c : Cursor) : Logged (Option PropTable) := do
  match ← propTypesValue c with
  | none => return none
  | some value =>
      if value.isA .object then
        let table ← PropTable.ofObject o value
        return some table
      else do
        Logged.tell (.tableNotObject ((value.kind?.map Kind.spelling).getD []))
        return none

/-- The node that the documentation of a class stands in front of. -/
def documented (c : Cursor) : Cursor :=
  match c.parent? with
  | some p => if p.isA .exportStatement then p else c
  | none => c

def component (o : InferenceOptions) (c : Cursor) (name : Text) : Logged Component := do
  let props ← propTable o c
  return ⟨name, c.documented.doc?, props⟩

end Cursor

namespace Module

def component (o : InferenceOptions) (m : Module) : Logged (Option Component) := do
  match ← m.root.defaultExport with
  | none => return none
  | some e =>
      match ← e.componentClass with
      | none => return none
      | some (c, name) => do
          let component ← c.component o name
          return some component

end Module
end ComponentDecl
