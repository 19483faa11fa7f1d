import ComponentDecl.Files.Path

/-!
# Files in memory

A collection of texts by path.  Adding a file at a path that is there already, however
it is spelled, replaces the earlier text.
-/

namespace ComponentDecl

/-- Files by path, the latest first. -/
structure MemoryFiles where
  files : List (Path × Text)
  deriving Repr

namespace MemoryFiles

def empty : MemoryFiles := ⟨[]⟩

def add (fs : MemoryFiles) (path contents : Text) : MemoryFiles :=
  ⟨(Path.ofText path, contents) :: fs.files⟩

def ofList (files : List (Text × Text)) : MemoryFiles :=
  files.foldl (fun fs f => fs.add f.1 f.2) empty

def read (fs : MemoryFiles) (path : Text) : Except ReadFault Text :=
  match fs.files.find? fun f => f.1 == Path.ofText path with
  | some f => .ok f.2
  | none => .error .unlisted

end MemoryFiles
end ComponentDecl
