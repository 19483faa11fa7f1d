import ComponentDecl.Component
import ComponentDecl.Step

/-!
# Declarations

The declaration of a module: an ambient module that imports the rendering library and,
if the module has a component, declares its props and its class.
-/

namespace ComponentDecl

structure Options where
  /-- The name that the rendering library is imported under. -/
  library : Text := "React"
  /-- The module that the rendering library is imported from. -/
  libraryModule : Text := "react"
  indent : Text := "\t"
  interfaceName : Text := "Props"
  /-- Whether validators are recognised without the library in front. -/
  standalone : Bool := true
  deriving DecidableEq, Repr

namespace Options

def inference (o : Options) : InferenceOptions :=
  ⟨o.library, o.standalone⟩

def componentBase (o : Options) : Text :=
  o.library ++ ".Component".toList

end Options

namespace Component

def steps (o : Options) (c : Component) : List Step :=
  let interface :=
    match c.props with
    | some table => [Step.interface o.interfaceName table, .newline]
    | none => []
  let comment :=
    match c.doc with
    | some doc => [Step.comment doc]
    | none => []
  interface ++ comment ++
    [.exportDefault
      [.classDecl c.name o.componentBase (c.props.map fun _ => o.interfaceName) []]]

end Component

namespace Declaration

def steps (o : Options) (name : Text) (c : Option Component) : List Step :=
  let contents :=
    match c with
    | some c => c.steps o
    | none => []
  [.declareModule name [.importAll o.library o.libraryModule (.newline :: contents)]]

def text (o : Options) (name : Text) (c : Option Component) : Text :=
  (Step.runAll (steps o name c) (Writer.fresh o.indent)).output

/-- What is said of the component of a module before it is declared. -/
def summary (name : Text) : Option Component → Notice
  | some c => .declaring name c.name c.props.isSome
  | none => .declaringNone name

def ofModule (o : Options) (name : Text) (m : Module) : Logged Text := do
  let c ← m.component o.inference
  Logged.tell (summary name c)
  return text o name c

def ofSource (o : Options) (name source : Text) : Logged (Except ParseError Text) := do
  match ← Module.parseLogged source with
  | .error e => return .error e
  | .ok m => do
      let t ← ofModule o name m
      return .ok t

end Declaration
end ComponentDecl
