import ComponentDecl.Text

/-!
# Command lines

A command line asks for the declaration of one module.  Flags take a value, given
behind an equals sign or as the next argument; what is no flag is the input.
-/

namespace ComponentDecl

/-- What a command line asks for. -/
structure Request where
  name : Option Text := none
  /-- The file of the component. -/
  input : Option Text := none
  library : Option Text := none
  libraryModule : Option Text := none
  config : Option Text := none
  deriving DecidableEq, Repr

/-- Why a command line asks for no declaration. -/
inductive Halt where
  | usage
  | help
  | version
  deriving DecidableEq, Repr

/-- The flags that take a value. -/
inductive Flag where
  | name
  | library
  | libraryModule
  | config
  deriving DecidableEq, Repr

namespace Flag

def word : Flag → Text
  | name => "name"
  | library => "library"
  | libraryModule => "library-module"
  | config => "config"

def ofWord? (w : Text) : Option Flag :=
  [name, library, libraryModule, config].find? fun f => f.word == w

end Flag

namespace Request

/-- Sets what is not set yet. -/
def once (old : Option Text) (new : Text) : Except Halt (Option Text) :=
  match old with
  | none => .ok (some new)
  | some _ => .error .usage

/-- Sets a path, which may not be empty. -/
def oncePath (old : Option Text) (new : Text) : Except Halt (Option Text) :=
  if new.isEmpty then .error .usage else once old new

def set (r : Request) (f : Flag) (v : Text) : Except Halt Request :=
  match f with
  | .name => (once r.name v).map fun x => { r with name := x }
  | .library => (once r.library v).map fun x => { r with library := x }
  | .libraryModule => (once r.libraryModule v).map fun x => { r with libraryModule := x }
  | .config => (oncePath r.config v).map fun x => { r with config := x }

def setInput (r : Request) (v : Text) : Except Halt Request :=
  (oncePath r.input v).map fun x => { r with input := x }

/-- Reads arguments none of which is a flag. -/
def inputs (r : Request) : List Text → Except Halt Request
  | [] => .ok r
  | a :: rest => do
      let r ← r.setInput a
      inputs r rest

/-- Whether an argument may be the value of the flag before it. -/
def isValue (a : Text) : Bool :=
  a.head? != some '-' || a == ['-']

inductive Argument where
  | noMoreFlags
  | setting (f : Flag) (value : Text)
  /-- A flag whose value follows. -/
  | flag (f : Flag)
  | input (path : Text)
  | halt (h : Halt)

/-- How a word behind two hyphens is read. -/
def ofLong (w : Text) : Argument :=
  match w.span (· != '=') with
  | (word, _ :: value) =>
      match Flag.ofWord? word with
      | some f => .setting f value
      | none => .halt .usage
  | (word, []) =>
      if word == "help" then .halt .help
      else if word == "version" then .halt .version
      else
        match Flag.ofWord? word with
        | some f => .flag f
        | none => .halt .usage

def classify : Text → Argument
  | '-' :: '-' :: [] => .noMoreFlags
  | '-' :: '-' :: w => ofLong w
  | '-' :: 'h' :: _ => .halt .help
  | '-' :: 'V' :: _ => .halt .version
  | '-' :: _ :: _ => .halt .usage
  | a => .input a

def read (r : Request) : List Text → Except Halt Request
  | [] => .ok r
  | a :: rest =>
      match classify a with
      | .noMoreFlags => inputs r rest
      | .halt h => .error h
      | .input path => do
          let r ← r.setInput path
          read r rest
      | .setting f v => do
          let r ← r.set f v
          read r rest
      | .flag f =>
          match rest with
          | [] => .error .usage
          | v :: rest =>
              if isValue v then do
                let r ← r.set f v
                read r rest
              else .error .usage

def ofArguments (arguments : List Text) : Except Halt Request :=
  read {} arguments

end Request
end ComponentDecl
