import ComponentDecl.Parse.Pattern

/-!
# Expressions that turn out to be patterns

Object and array literals, and what stands in parentheses, look alike whether they are
values or patterns until an equals sign or an arrow follows.  They are read as
expressions and recast as patterns afterwards.  Members that fit a pattern only, such as
a name with a default, are let through until then.
-/

namespace ComponentDecl
namespace Parse

inductive Place where
  /-- What is assigned to as a whole. -/
  | target
  /-- An element of an array or a parameter: it may have a default or take the rest. -/
  | element
  | member
  deriving DecidableEq

mutual

/-- A tree recast as the pattern it spells. -/
def asPattern (p : Place) : Tree → Option Tree
  | .gap t => some (.gap t)
  | .token f t => some (.token f t)
  | .missing _ _ => none
  | .leaf f k t =>
      match k with
      | .comment => some (.leaf f k t)
      | .htmlComment => some (.leaf f k t)
      | .identifier => if p == .member then none else some (.leaf f k t)
      | .undefinedWord => if p == .member then none else some (.leaf f k t)
      | .shorthandPropertyIdentifier =>
          if p == .member then some (.leaf f .shorthandPropertyIdentifierPattern t) else none
      | _ => none
  | .branch f k cs =>
      match k with
      | .memberExpression => if p == .member then none else some (.branch f k cs)
      | .subscriptExpression => if p == .member then none else some (.branch f k cs)
      | .objectPattern => if p == .member then none else some (.branch f k cs)
      | .arrayPattern => if p == .member then none else some (.branch f k cs)
      | .object =>
          if p == .member then none
          else (asPatternAll .member cs).map fun cs => .branch f .objectPattern cs
      | .array =>
          if p == .member then none
          else (asPatternAll .element cs).map fun cs => .branch f .arrayPattern cs
      | .assignmentExpression =>
          if p == .element then
            (asPatternIn .left .target cs).map fun cs => .branch f .assignmentPattern cs
          else none
      | .spreadElement =>
          if p == .target then none
          else (asPatternAll .target cs).map fun cs => .branch f .restPattern cs
      | .pair =>
          if p == .member then
            (asPatternIn .value .element cs).map fun cs => .branch f .pairPattern cs
          else none
      | .objectAssignmentPattern => if p == .member then some (.branch f k cs) else none
      | _ => none

def asPatternAll (p : Place) : List Tree → Option (List Tree)
  | [] => some []
  | t :: rest => do
      let t ← asPattern p t
      let rest ← asPatternAll p rest
      return t :: rest

/-- A row of trees in which only the one in the given field is recast. -/
def asPatternIn (field : Field) (p : Place) : List Tree → Option (List Tree)
  | [] => some []
  | t :: rest => do
      let t ← if t.field == some field then asPattern p t else some t
      let rest ← asPatternIn field p rest
      return t :: rest

end

mutual

/-- Whether a literal has a member that fits a pattern only. -/
def fitsPatternOnly : Tree → Bool
  | .branch _ k cs =>
      k == .objectAssignmentPattern ||
        ((k == .object || k == .array || k == .pair || k == .spreadElement) &&
          anyFitsPatternOnly cs)
  | _ => false

def anyFitsPatternOnly : List Tree → Bool
  | [] => false
  | t :: rest => fitsPatternOnly t || anyFitsPatternOnly rest

end

namespace Item

def asPattern? (p : Place) (i : Item) : Option Item :=
  (asPatternAll p i.body).map fun body => { i with body := body }

def isPatternOnly (i : Item) : Bool :=
  anyFitsPatternOnly i.body

end Item

def recastPattern (p : Place) (i : Item) : Parse Item :=
  match i.asPattern? p with
  | some j => pure j
  | none => failure

def recastPatterns (p : Place) : List Item → Parse (List Item)
  | [] => pure []
  | i :: rest => do
      let i ← recastPattern p i
      let rest ← recastPatterns p rest
      return i :: rest

def seesElementEnd : Parse Bool := do
  match ← next false with
  | c :: _ => return c == ',' || c == ']' || c == '}' || c == ')'
  | [] => return false

end Parse
end ComponentDecl
