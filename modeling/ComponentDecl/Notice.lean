import ComponentDecl.Text

/-!
# Notices

What the library tells about its work: each notice has a level, a message and named
details.  A computation that gives notices returns them beside its value, in the
order in which they were given.
-/

namespace ComponentDecl

/-- How much a notice matters, the most severe first. -/
inductive Level where
  | error
  | warn
  | info
  | debug
  | trace
  deriving DecidableEq, Repr

namespace Level

def rank : Level → Nat
  | error => 0
  | warn => 1
  | info => 2
  | debug => 3
  | trace => 4

def name : Level → Text
  | error => "ERROR"
  | warn => "WARN"
  | info => "INFO"
  | debug => "DEBUG"
  | trace => "TRACE"

def all : List Level := [error, warn, info, debug, trace]

def ofName? (t : Text) : Option Level :=
  all.find? fun l => l.name == t

/-- Whether a level is at least as severe as another. -/
def covers (least l : Level) : Bool :=
  l.rank ≤ least.rank

end Level

inductive Detail where
  | number (n : Nat)
  | flag (b : Bool)
  | text (t : Text)
  deriving DecidableEq, Repr

/-- What the library tells about its work. -/
inductive Notice where
  /-- A handler is about to see a node. -/
  | handling (kind : Text) (start : Nat)
  | parsed (bytes : Nat)
  | sourceRead (path : Text)
  | exportFound (line : Nat)
  /-- A further default export is not looked at. -/
  | exportIgnored (line : Nat)
  /-- A class inside the exported component is not looked at. -/
  | classIgnored (line : Nat) (name component : Text)
  | anonymousSkipped (line : Nat)
  | tableNotObject (kind : Text)
  /-- The key of a member is computed. -/
  | keySkipped (key : Text)
  | propInferred (prop typeName : Text)
  /-- An entry of the table that names no type. -/
  | entrySkipped (kind text : Text)
  | declaring (module component : Text) (typedProps : Bool)
  | declaringNone (module : Text)
  deriving DecidableEq, Repr

namespace Notice

def level : Notice → Level
  | handling _ _ => .trace
  | exportIgnored _ | classIgnored _ _ _ => .warn
  | declaring _ _ _ | declaringNone _ => .info
  | _ => .debug

def message : Notice → Text
  | handling _ _ => "Dispatching handler"
  | parsed _ => "Parsed module"
  | sourceRead _ => "Read component source"
  | exportFound _ => "Found default export"
  | exportIgnored _ => "Ignoring additional default export"
  | classIgnored _ _ _ => "Ignoring class nested inside the exported component"
  | anonymousSkipped _ => "Skipping anonymous default-exported class"
  | tableNotObject _ => "propTypes is not an object literal"
  | keySkipped _ => "Skipping computed propTypes key"
  | propInferred _ _ => "Inferred prop type"
  | entrySkipped _ _ => "Skipping propTypes entry"
  | declaring _ _ _ => "Generating component declaration"
  | declaringNone _ => "No default-exported class found"

def details : Notice → List (Text × Detail)
  | handling kind start => [("kind", .text kind), ("start", .number start)]
  | parsed bytes => [("bytes", .number bytes)]
  | sourceRead path => [("path", .text path)]
  | exportFound line => [("line", .number line)]
  | exportIgnored line => [("line", .number line)]
  | classIgnored line name component =>
      [("line", .number line), ("name", .text name), ("component", .text component)]
  | anonymousSkipped line => [("line", .number line)]
  | tableNotObject kind => [("kind", .text kind)]
  | keySkipped key => [("key", .text key)]
  | propInferred prop typeName => [("prop", .text prop), ("type_name", .text typeName)]
  | entrySkipped kind text => [("kind", .text kind), ("text", .text text)]
  | declaring module component typedProps =>
      [("module", .text module), ("component", .text component), ("typed_props", .flag typedProps)]
  | declaringNone module => [("module", .text module)]

def atLevel (l : Level) (notices : List Notice) : List Notice :=
  notices.filter fun n => l.covers n.level

end Notice

/-!
# Computations that give notices
-/

/-- A value and the notices given on the way to it. -/
structure Logged (α : Type) where
  value : α
  notices : List Notice

namespace Logged

instance : Monad Logged where
  pure a := ⟨a, []⟩
  bind x f := ⟨(f x.value).value, x.notices ++ (f x.value).notices⟩

def tell (n : Notice) : Logged Unit := ⟨(), [n]⟩

@[simp] theorem value_pure {α : Type} (a : α) : (pure a : Logged α).value = a := rfl

@[simp] theorem notices_pure {α : Type} (a : α) : (pure a : Logged α).notices = [] := rfl

@[simp] theorem value_bind {α β : Type} (x : Logged α) (f : α → Logged β) :
    (x >>= f).value = (f x.value).value := rfl

@[simp] theorem notices_bind {α β : Type} (x : Logged α) (f : α → Logged β) :
    (x >>= f).notices = x.notices ++ (f x.value).notices := rfl

@[simp] theorem value_tell (n : Notice) : (tell n).value = () := rfl

@[simp] theorem notices_tell (n : Notice) : (tell n).notices = [n] := rfl

instance : LawfulMonad Logged :=
  LawfulMonad.mk' Logged
    (fun x => by
      cases x
      simp [Functor.map, List.append_nil])
    (fun _ _ => rfl)
    (fun x f g => by
      cases x
      simp [bind, List.append_assoc])

end Logged
end ComponentDecl
