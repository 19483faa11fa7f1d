import ComponentDecl.Notice
import ComponentDecl.Syntax.Cursor
import ComponentDecl.Text.Quoted

/-!
# Walking a tree

A walk visits the named nodes of a tree in pre-order and hands each to the handler
registered for its kind.  Handlers share a state, which the walk passes along.
-/

namespace ComponentDecl

abbrev Handler (σ : Type) := Cursor → σ → Logged σ

/-- Handlers by the name of the kind they see, the latest registration first. -/
structure Handlers (σ : Type) where
  table : List (Text × Handler σ)

namespace Handlers

variable {σ : Type}

def empty : Handlers σ := ⟨[]⟩

/-- Registers a handler for the kind of that name.  It takes the place of an earlier
one. -/
def on (kind : Text) (h : Handler σ) (hs : Handlers σ) : Handlers σ :=
  ⟨(kind, h) :: hs.table⟩

def ofList (hs : List (Text × Handler σ)) : Handlers σ :=
  hs.foldl (fun all h => all.on h.1 h.2) empty

def handler? (kind : Text) (hs : Handlers σ) : Option (Handler σ) :=
  (hs.table.find? fun h => h.1 == kind).map Prod.snd

def handles (kind : Text) (hs : Handlers σ) : Bool :=
  (hs.handler? kind).isSome

/-- Hands a node to the handler for its kind, and says so first. -/
def dispatch (hs : Handlers σ) (c : Cursor) (s : σ) : Logged σ :=
  match c.kind? with
  | none => pure s
  | some k =>
      match hs.handler? k.spelling with
      | none => pure s
      | some h => do
          Logged.tell (.handling k.spelling c.span.start)
          h c s

end Handlers

variable {σ : Type}

mutual

def walkTree (hs : Handlers σ) (c : Cursor) : Tree → σ → Logged σ
  | .branch _ _ cs, s => do
      let s ← hs.dispatch c s
      walkRow hs c [] c.start cs s
  | .leaf _ _ _, s => hs.dispatch c s
  | _, s => pure s

def walkRow (hs : Handlers σ) (parent : Cursor) (left : List Tree) (m : Mark) :
    List Tree → σ → Logged σ
  | [], s => pure s
  | t :: rest, s => do
      let s ← walkTree hs (.child parent left m t) t s
      walkRow hs parent (t :: left) (m.after t.text) rest s

end

def walk (hs : Handlers σ) (c : Cursor) (s : σ) : Logged σ :=
  walkTree hs c c.tree s

/-!
# Showing handlers

The names of the kinds are listed in order, each once, as quoted texts.
-/

namespace Handlers

/-- Whether a text comes before another by code points, or is equal to it. -/
def upTo : Text → Text → Bool
  | [], _ => true
  | _ :: _, [] => false
  | a :: s, b :: t => a.toNat < b.toNat || (a == b && upTo s t)

/-- Puts a text into its place in an ordered list of distinct texts. -/
def place (t : Text) : List Text → List Text
  | [] => [t]
  | u :: rest => if t == u then u :: rest else if upTo t u then t :: u :: rest else u :: place t rest

def kinds (hs : Handlers σ) : List Text :=
  hs.table.foldr (fun h names => place h.1 names) []

def shown (hs : Handlers σ) : Text :=
  "Handlers \x7b kinds: [".toList ++ Text.joinWith ", " (hs.kinds.map Text.quoted) ++
    "] \x7d".toList

end Handlers
end ComponentDecl
