import ComponentDecl.Syntax.Span
import ComponentDecl.Syntax.Tree

/-!
# Cursors

A cursor is a place in a syntax tree: a piece of the tree together with the pieces
around it.  From a cursor one sees the position of the piece in the source, its
parent, its children and the sibling before it.
-/

namespace ComponentDecl
namespace Tree

def indent (t : Tree) : Text :=
  textAll (t.children.takeWhile isGap)

/-- What a node shows: its text from its first child on. -/
def shown (t : Tree) : Text :=
  textAll (t.children.dropWhile isGap)

end Tree

/-- A place in a syntax tree. -/
inductive Cursor where
  | root (tree : Tree)
  /-- A piece below `parent`: the siblings before it, nearest first, where its text
  starts, and the piece itself. -/
  | child (parent : Cursor) (left : List Tree) (start : Mark) (tree : Tree)

namespace Cursor

/-!
# The piece and its position
-/

def tree : Cursor → Tree
  | root t => t
  | child _ _ _ t => t

def start : Cursor → Mark
  | root _ => Mark.origin
  | child _ _ m _ => m

def kind? (c : Cursor) : Option Kind :=
  c.tree.kind?

def isA (k : Kind) (c : Cursor) : Bool :=
  c.kind? == some k

def field (c : Cursor) : Option Field :=
  c.tree.field

/-- The source text of the piece, without white space in front. -/
def text (c : Cursor) : Text :=
  match c.tree with
  | .branch _ _ cs => Tree.textAll (cs.dropWhile Tree.isGap)
  | t => t.text

/-- The span of the piece: from its first child to the end of its text. -/
def span (c : Cursor) : Span :=
  Span.ofText (c.start.after c.tree.indent) c.text

def label (c : Cursor) : Text :=
  (c.kind?.map Kind.spelling).getD [] ++ '@' :: Text.ofNat c.span.start ++ "..".toList ++
    Text.ofNat c.span.stop

def isComment (c : Cursor) : Bool :=
  c.isA .comment

/-!
# Moving
-/

def parent? : Cursor → Option Cursor
  | root _ => none
  | child p _ _ _ => some p

/-- The cursors at the pieces of a row below a parent, given what is left of it. -/
def row (parent : Cursor) (left : List Tree) (m : Mark) : List Tree → List Cursor
  | [] => []
  | t :: rest => child parent left m t :: row parent (t :: left) (m.after t.text) rest

def children (c : Cursor) : List Cursor :=
  (row c [] c.start c.tree.children).filter fun d => !d.tree.isGap

def namedChildren (c : Cursor) : List Cursor :=
  c.children.filter fun d => d.tree.isNamed

/-- The node in a field: the first child there, if it is a named node. -/
def fieldNamed (f : Field) (c : Cursor) : Option Cursor :=
  (c.children.find? fun d => d.field == some f).filter fun d => d.tree.isNamed

/-- Whether a direct token has exactly the text. -/
def hasToken (t : Text) (c : Cursor) : Bool :=
  c.children.any fun d => !d.tree.isNamed && d.text == t

def nearest (parent : Cursor) : List Tree → Option Cursor
  | [] => none
  | t :: left =>
      if t.isNamed then
        some (child parent left (parent.start.after (Tree.textAll left.reverse)) t)
      else nearest parent left

def previous? : Cursor → Option Cursor
  | root _ => none
  | child p left _ _ => nearest p left

/-- The numbers of the children on the way up to the root. -/
def address : Cursor → List Nat
  | root _ => []
  | child p left _ _ => left.length :: p.address

/-- Whether two cursors of one tree are at the same piece. -/
def isSame (c d : Cursor) : Bool :=
  c.address == d.address

def isChildOf (c p : Cursor) : Bool :=
  match c.parent? with
  | some q => q.isSame p
  | none => false

/-!
# Pre-order
-/

mutual

/-- The named nodes of a tree at a cursor, each before the ones below it. -/
def nodesOf (c : Cursor) : Tree → List Cursor
  | .branch _ _ cs => c :: nodesOfRow c [] c.start cs
  | .leaf _ _ _ => [c]
  | _ => []

def nodesOfRow (parent : Cursor) (left : List Tree) (m : Mark) : List Tree → List Cursor
  | [] => []
  | t :: rest =>
      nodesOf (child parent left m t) t ++ nodesOfRow parent (t :: left) (m.after t.text) rest

end

def nodes (c : Cursor) : List Cursor :=
  nodesOf c c.tree

end Cursor
end ComponentDecl
