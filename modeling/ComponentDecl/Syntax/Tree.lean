import ComponentDecl.Syntax.Kind

/-!
# Syntax trees

A syntax tree holds all the text it was built from, white space included, and no
positions: where a node stands follows from the text before it.  Named nodes are
leaves, which hold text, and branches, which hold children; tokens such as
keywords and brackets have no name.  Trees of rejected sources also hold the
mistakes: stretches of text of kind `error` and missing nodes of no text.
-/

namespace ComponentDecl

/-- A piece of a syntax tree, with the field it fills in the piece above. -/
inductive Tree where
  /-- White space and other text that no node shows. -/
  | gap (text : Text)
  | token (field : Option Field) (text : Text)
  | leaf (field : Option Field) (kind : Kind) (text : Text)
  | branch (field : Option Field) (kind : Kind) (children : List Tree)
  /-- A node that the source lacks. -/
  | missing (field : Option Field) (name : Text)
  deriving Repr

namespace Tree

/-!
# Reading a tree
-/

mutual

/-- The text that a tree was built from. -/
def text : Tree → Text
  | gap t => t
  | token _ t => t
  | leaf _ _ t => t
  | branch _ _ children => textAll children
  | missing _ _ => []

def textAll : List Tree → Text
  | [] => []
  | t :: rest => text t ++ textAll rest

end

def field : Tree → Option Field
  | gap _ => none
  | token f _ => f
  | leaf f _ _ => f
  | branch f _ _ => f
  | missing f _ => f

def kind? : Tree → Option Kind
  | leaf _ k _ => some k
  | branch _ k _ => some k
  | _ => none

/-- The children of a node, gaps included. -/
def children : Tree → List Tree
  | branch _ _ cs => cs
  | _ => []

def isNamed (t : Tree) : Bool :=
  t.kind?.isSome

def isGap : Tree → Bool
  | gap _ => true
  | _ => false

def inField (f : Field) : Tree → Tree
  | gap t => gap t
  | token _ t => token (some f) t
  | leaf _ k t => leaf (some f) k t
  | branch _ k cs => branch (some f) k cs
  | missing _ n => missing (some f) n

/-!
# Mistakes
-/

def isMistake : Tree → Bool
  | leaf _ .error _ => true
  | branch _ .error _ => true
  | missing _ _ => true
  | _ => false

mutual

/-- Whether a node or one below it is a mistake. -/
def hasMistake : Tree → Bool
  | gap _ => false
  | token _ _ => false
  | leaf _ k _ => k == .error
  | branch _ k cs => k == .error || hasMistakeAll cs
  | missing _ _ => true

def hasMistakeAll : List Tree → Bool
  | [] => false
  | t :: rest => hasMistake t || hasMistakeAll rest

end

end Tree
end ComponentDecl
