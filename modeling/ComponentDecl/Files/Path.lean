import ComponentDecl.Text

/-!
# Paths

A path is a row of names parted by slashes.  Paths are compared by their parts: empty
parts, and points other than a first one, do not count.
-/

namespace ComponentDecl

structure Path where
  rooted : Bool
  parts : List Text
  deriving DecidableEq, Repr

namespace Path

/-- The pieces of a text between slashes. -/
def segments : Text → List Text
  | [] => [[]]
  | c :: rest =>
      match segments rest with
      | [] => [[c]]
      | s :: more => if c = '/' then [] :: s :: more else (c :: s) :: more

def isVoid (s : Text) : Bool :=
  s == [] || s == ['.']

def names (t : Text) : List Text :=
  (segments t).filter fun s => !isVoid s

def ofText (t : Text) : Path :=
  if Text.startsWith "/" t then ⟨true, names t⟩
  else if (segments t).head? == some ['.'] then ⟨false, ['.'] :: names t⟩
  else ⟨false, names t⟩

/-- The name at the end of a path, if it ends in a name. -/
def fileName? (p : Path) : Option Text :=
  match p.parts.getLast? with
  | some s => if s == ['.'] || s == ['.', '.'] then none else some s
  | none => none

end Path

inductive ReadFault where
  /-- A collection of files in memory has no such file. -/
  | unlisted
  /-- There is no such file or folder. -/
  | absent
  | isFolder
  | notFolder
  | notText
  deriving DecidableEq, Repr

namespace ReadFault

def message : ReadFault → Text
  | unlisted => "entity not found"
  | absent => "No such file or directory (os error 2)"
  | isFolder => "Is a directory (os error 21)"
  | notFolder => "Not a directory (os error 20)"
  | notText => "stream did not contain valid UTF-8"

end ReadFault
end ComponentDecl
