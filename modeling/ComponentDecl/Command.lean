import ComponentDecl.Command.Request
import ComponentDecl.Config
import ComponentDecl.Files.Folder
import ComponentDecl.Files.Memory
import ComponentDecl.Report

/-!
# Running a command

A request is answered by the text of a declaration or refused with the first failure.
Checks come in a fixed order: the name, the configuration, the source, its syntax.
How files are reached is left to a disk, so that the same steps run on real files and
on a folder in memory.
-/

namespace ComponentDecl

/-!
# Declarations of files
-/

inductive Failure where
  | parse (e : ParseError)
  | read (path : Text) (fault : ReadFault)
  deriving DecidableEq, Repr

namespace Failure

def message : Failure → Text
  | parse e => "Parse error: ".toList ++ e.message
  | read path fault => "Failed to read ".toList ++ path ++ ": ".toList ++ fault.message

def isParse : Failure → Bool
  | parse _ => true
  | read _ _ => false

end Failure

namespace Declaration

def ofText (o : Options) (name source : Text) : Logged (Except Failure Text) := do
  match ← ofSource o name source with
  | .error e => return .error (.parse e)
  | .ok t => return .ok t

def ofFile (read : Text → Except ReadFault Text) (o : Options) (name path : Text) :
    Logged (Except Failure Text) :=
  match read path with
  | .error fault => pure (.error (.read path fault))
  | .ok source => do
      Logged.tell (.sourceRead path)
      ofText o name source

end Declaration

/-!
# Disks
-/

/-- The way to files in a working folder.  Paths are as they were given. -/
structure Disk (m : Type → Type) where
  folder : Text
  holds : Text → m Bool
  read : Text → m (Except ReadFault Text)
  input : m (Except ReadFault Text)

namespace Disk

/-- The full path for a path taken from the working folder. -/
def fullPath {m : Type → Type} (d : Disk m) (path : Text) : Text :=
  if Text.startsWith "/" path then path
  else if d.folder.getLast? == some '/' then d.folder ++ path
  else d.folder ++ '/' :: path

def ofEntry (name : Text) (folder : Entry) (input : Contents) : Disk Id where
  folder := name
  holds path := folder.holds path
  read path := folder.readAt path
  input := input.read

end Disk

/-!
# Answers
-/

inductive CommandError where
  | nameMissing
  /-- The configuration file that was asked for is not there. -/
  | configMissing (path : Text)
  | configUnreadable (fault : ReadFault)
  | configInvalid (path : Text)
  | sourceUnreadable (path : Text)
  | inputUnreadable
  | rejected (e : ParseError) (name source : Text)
  deriving DecidableEq, Repr

namespace CommandError

def message : CommandError → Text
  | nameMissing => "Failed to specify --name parameter"
  | configMissing path => "Config file does not exist: ".toList ++ path
  | configUnreadable fault => fault.message
  | configInvalid path => "Invalid config file ".toList ++ path
  | sourceUnreadable path => "Failed to read ".toList ++ path
  | inputUnreadable => "Failed to read stdin"
  | rejected e name source => '\n' :: e.report name source

end CommandError

variable {m : Type → Type} [Monad m]

/-- Reads the configuration file at a path, which is there. -/
def Config.readAt (d : Disk m) (path : Text) : m (Except CommandError Config) := do
  match ← d.read path with
  | .error fault => return .error (.configUnreadable fault)
  | .ok t =>
      match Config.ofText? t with
      | some c => return .ok c
      | none => return .error (.configInvalid (d.fullPath path))

/-- Loads the configuration: from the path if one is given, else from the default file
if that is there. -/
def Config.load (d : Disk m) : Option Text → m (Except CommandError Config)
  | some path => do
      if ← d.holds path then Config.readAt d path
      else return .error (.configMissing (d.fullPath path))
  | none => do
      if ← d.holds Config.defaultName then Config.readAt d Config.defaultName
      else return .ok {}

namespace Request

/-- The options of a request: flags come before the configuration. -/
def options (r : Request) (c : Config) : Options :=
  { c.options with
    library := r.library.getD c.options.library
    libraryModule := r.libraryModule.getD c.options.libraryModule }

/-- The source of a request and its name in reports. -/
def source (d : Disk m) (r : Request) : m (Except CommandError (Text × Text)) := do
  match r.input with
  | some path =>
      match ← d.read path with
      | .ok t => return .ok (t, ((Path.ofText path).fileName?).getD "unknown")
      | .error _ => return .error (.sourceUnreadable (d.fullPath path))
  | none =>
      match ← d.input with
      | .ok t => return .ok (t, "<stdin>")
      | .error _ => return .error .inputUnreadable

def answer (d : Disk m) (r : Request) : m (Except CommandError Text) := do
  match r.name with
  | none => return .error .nameMissing
  | some name =>
      match ← Config.load d r.config with
      | .error e => return .error e
      | .ok config =>
          match ← r.source d with
          | .error e => return .error e
          | .ok (source, fileName) =>
              match (Declaration.ofSource (r.options config) name source).value with
              | .error e => return .error (.rejected e fileName source)
              | .ok t => return .ok t

end Request

/-!
# Outcomes
-/

structure Outcome where
  status : Nat
  output : Text
  errors : Text
  deriving DecidableEq, Repr

namespace Outcome

def ofAnswer : Except CommandError Text → Outcome
  | .ok t => ⟨0, t, []⟩
  | .error e => ⟨1, [], "\nError: ".toList ++ e.message ++ "\n\n".toList⟩

/-- A stand-in for the summary of the arguments.  The real one is laid out by the library
that reads the arguments, which is not modelled; it lists each flag with its description. -/
def usage : Text :=
  "Usage: react-dts [OPTIONS] [INPUT]\n"

/-- The outcome of a command line that asks for no declaration.  Exit codes and streams are
the real ones.  The texts for help and for invalid arguments are stand-ins: the real message
for invalid arguments names the argument at fault. -/
def ofHalt : Halt → Outcome
  | .usage => ⟨2, [], "error: invalid arguments\n\n".toList ++ usage⟩
  | .help => ⟨0, usage, []⟩
  | .version => ⟨0, "react-dts 0.1.0\n", []⟩

def run (d : Disk m) (arguments : List Text) : m Outcome := do
  match Request.ofArguments arguments with
  | .error h => return ofHalt h
  | .ok r => return ofAnswer (← r.answer d)

end Outcome
end ComponentDecl
