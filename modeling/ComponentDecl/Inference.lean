import ComponentDecl.Syntax.Tree
import ComponentDecl.Validator

/-!
# Inferring the type of a validator expression

A validator is recognised by its dotted name: a plain name followed by members.
Parentheses around any part of it do not matter, nor do comments inside them.  Every
other expression stands for any value.
-/

namespace ComponentDecl
namespace Tree

/-- Whether a tree is a named node other than a comment. -/
def isSubstance (t : Tree) : Bool :=
  t.isNamed && t.kind? != some .comment

/-- The name of the member that a member expression takes, if it is a plain name. -/
def memberName? (cs : List Tree) : Option Text :=
  match cs.find? fun t => t.field == some .property with
  | some (.leaf _ .propertyIdentifier t) => some t
  | _ => none

mutual

/-- The names of a chain of members, from the plain name at its root. -/
def names? : Tree → Option (List Text)
  | .leaf _ .identifier t => some [t]
  | .branch _ .parenthesizedExpression cs => innerNames? cs
  | .branch _ .memberExpression cs => do
      let object ← objectNames? cs
      let property ← memberName? cs
      return object ++ [property]
  | _ => none

def innerNames? : List Tree → Option (List Text)
  | [] => none
  | t :: rest => if t.isSubstance then names? t else innerNames? rest

def objectNames? : List Tree → Option (List Text)
  | [] => none
  | t :: rest => if t.field == some .object then names? t else objectNames? rest

end

def dottedName? (t : Tree) : Option Text :=
  t.names?.map (Text.joinWith ".")

/-- The type that a validator expression stands for.  A name alone is no validator. -/
def propType (o : InferenceOptions) (t : Tree) : PropType :=
  match t.names? with
  | some (root :: property :: more) =>
      (o.typeOf? (Text.joinWith "." (root :: property :: more))).getD .any
  | _ => .any

def declaredType (o : InferenceOptions) (t : Tree) : Text :=
  (t.propType o).declared o.library

end Tree
end ComponentDecl
