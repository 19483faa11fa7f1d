import ComponentDecl.Syntax.Cursor

/-!
# Documentation comments

A block comment with a second star documents the node right behind it.
-/

namespace ComponentDecl

/-- The body of a documentation comment, given the whole comment: what stands between
the delimiters, if it starts with a star and holds more than that star. -/
def docBody? (comment : Text) : Option Text := do
  let body ← Text.stripEnd? "*/" (← Text.strip? "/*" comment)
  if body.head? == some '*' && body != ['*'] then some body else none

/-- The documentation of a node: the body of the comment that is the named sibling
before it. -/
def Cursor.doc? (c : Cursor) : Option Text := do
  let comment ← c.previous?
  if comment.isComment then docBody? comment.text else none

end ComponentDecl
