import ComponentDecl.Files.Path

/-!
# Folders

A folder as it is on a disk: names for files and further folders.  A path is followed
from a folder name by name; two points lead back up.  Of what lies outside the folder
nothing is known but that the folders above it exist.
-/

namespace ComponentDecl

inductive Contents where
  | text (t : Text)
  /-- Bytes that are no text. -/
  | garbled
  deriving DecidableEq, Repr

namespace Contents

def read : Contents → Except ReadFault Text
  | text t => .ok t
  | garbled => .error .notText

end Contents

/-- What a name stands for on a disk. -/
inductive Entry where
  | file (contents : Contents)
  | folder (entries : List (Text × Entry))

namespace Entry

/-- A folder of nothing known. -/
def bare : Entry := .folder []

def lookup? (name : Text) : List (Text × Entry) → Option Entry
  | [] => none
  | (n, e) :: rest => if n == name then some e else lookup? name rest

def replace (name : Text) (new : Entry) : List (Text × Entry) → List (Text × Entry)
  | [] => [(name, new)]
  | (n, e) :: rest => if n == name then (n, new) :: rest else (n, e) :: replace name new rest

/-- Puts an entry at a place below a folder; folders on the way are made. -/
def put : List Text → Entry → Entry → Entry
  | [], new, _ => new
  | name :: rest, new, .folder es =>
      .folder (replace name (put rest new ((lookup? name es).getD bare)) es)
  | name :: rest, new, .file _ => .folder [(name, put rest new bare)]

def ofFiles (files : List (Text × Contents)) : Entry :=
  files.foldl (fun e f => put (Path.names f.1) (.file f.2) e) bare

/-- Follows segments of a path from an entry, given the folders above it. -/
def follow : List Text → List Entry → Entry → Except ReadFault Entry
  | [], _, e => .ok e
  | _ :: _, _, .file _ => .error .notFolder
  | s :: rest, above, .folder es =>
      if Path.isVoid s then follow rest above (.folder es)
      -- above the topmost known folder there are only folders of nothing known
      else if s == ['.', '.'] then follow rest above.tail (above.head?.getD bare)
      else
        match lookup? s es with
        | some e => follow rest (.folder es :: above) e
        | none => .error .absent

/-- The entry at a path that is taken from a folder.  A path from the root leads
outside. -/
def at? (folder : Entry) (path : Text) : Except ReadFault Entry :=
  if Text.startsWith "/" path then follow (Path.segments path) [] bare
  else follow (Path.segments path) [] folder

def readAt (folder : Entry) (path : Text) : Except ReadFault Text :=
  match at? folder path with
  | .error f => .error f
  | .ok (.folder _) => .error .isFolder
  | .ok (.file c) => c.read

def holds (folder : Entry) (path : Text) : Bool :=
  match at? folder path with
  | .ok _ => true
  | .error _ => false

/-- Reads the file that a path names for a program working in the folder: the empty
path names nothing. -/
def readNamed (folder : Entry) (path : Text) : Except ReadFault Text :=
  if path.isEmpty then .error .absent else folder.readAt path

end Entry
end ComponentDecl
