import ComponentDecl.Proofs.Parse.Takes.Expression

set_option mvcgen.warning false

/-!
# Faithful statements
-/

namespace ComponentDecl
namespace Parse

open Std.Do

/-!
# Looking ahead
-/

@[spec high] theorem seesOnlyContinuation_looks (s : Text) : Looks s seesOnlyContinuation := by
  unfold seesOnlyContinuation
  mvcgen -trivial <;> simp_all [-String.reduceToList]

@[spec high] theorem letDeclares_looks (s : Text) : Looks s letDeclares := by
  unfold letDeclares
  mvcgen -trivial <;> simp_all [-String.reduceToList]

@[spec high] theorem asyncDeclares_looks (s : Text) : Looks s asyncDeclares := by
  unfold asyncDeclares
  mvcgen <;> simp_all

@[spec high] theorem noSemicolon_looks (counting operators : Bool) (s : Text) :
    Looks s (noSemicolon counting operators) := by
  unfold noSemicolon
  mvcgen
  simp_all

/-!
# Statements of their own
-/

@[spec high] theorem emptyStatement_takes (s : Text) : Takes s emptyStatement Item.text := by
  unfold emptyStatement
  mvcgen
  simp_all

@[spec high] theorem loopOperator_takes (s : Text) : Takes s loopOperator Item.text := by
  unfold loopOperator
  mvcgen <;> simp_all

@[spec high] theorem loopPlace_takes (counting : Bool) {place : Parse Item}
    (h : ∀ s, Takes s place Item.text) (s : Text) :
    Takes s (loopPlace counting place) Item.textOf := by
  unfold loopPlace
  mvcgen [h]
  simp_all

@[spec high] theorem jump_takes (w : String) (k : Kind) (s : Text) :
    Takes s (jump w k) Item.text := by
  unfold jump
  mvcgen <;> simp_all

@[spec high] theorem debuggerStatement_takes (s : Text) :
    Takes s debuggerStatement Item.text := by
  unfold debuggerStatement
  mvcgen
  simp_all

variable {g : Grammar} (hg : g.Faithful)
include hg

/-!
# Expressions and blocks as statements
-/

@[spec high] theorem expressionStatement_takes (s : Text) :
    Takes s (expressionStatement g) Item.text := by
  unfold expressionStatement
  mvcgen
  simp_all

@[spec high] theorem statementFrom_takes (first : Item) (s : Text) :
    TakesOn s first.text (statementFrom g first) Item.text := by
  unfold statementFrom
  mvcgen
  simp_all

@[spec high] theorem bracedStatement_takes (s : Text) :
    Takes s (bracedStatement g) Item.text := by
  unfold bracedStatement
  mvcgen <;> simp_all

/-!
# Declarations
-/

@[spec high] theorem declarator_takes (setting : Setting) (s : Text) :
    Takes s (declarator g setting) Item.text := by
  unfold declarator
  mvcgen <;> simp_all +zetaDelta

@[spec high] theorem declarators_takes (s : Text) : Takes s (declarators g) Item.textOf := by
  unfold declarators
  mvcgen <;> simp_all +zetaDelta

@[spec high] theorem variableDeclaration_takes (s : Text) :
    Takes s (variableDeclaration g) Item.text := by
  unfold variableDeclaration
  mvcgen
  simp_all

@[spec high] theorem lexicalDeclaration_takes (w : String) (s : Text) :
    Takes s (lexicalDeclaration g w) Item.text := by
  unfold lexicalDeclaration
  mvcgen
  simp_all

@[spec high] theorem functionStatement_takes (s : Text) :
    Takes s (functionStatement g) Item.text := by
  unfold functionStatement
  mvcgen <;> simp_all

@[spec high] theorem classStatement_takes (front : List Item) (s : Text) :
    TakesOn s (Item.textOf front) (classStatement g front) Item.text := by
  unfold classStatement
  mvcgen <;> simp_all

/-!
# Branching
-/

@[spec high] theorem condition_takes (s : Text) : Takes s (condition g) Item.text := by
  unfold condition
  mvcgen
  simp_all

@[spec high] theorem body_takes (s : Text) : Takes s (body g) Item.text := by
  unfold body
  mvcgen
  simp_all

@[spec high] theorem ifStatement_takes (s : Text) : Takes s (ifStatement g) Item.text := by
  unfold ifStatement
  mvcgen <;> simp_all +zetaDelta

@[spec high] theorem caseBody_takes (s : Text) : Takes s (caseBody g) Item.textOf := by
  unfold caseBody
  mvcgen
  simp_all

@[spec high] theorem switchCase_takes (s : Text) : Takes s (switchCase g) Item.text := by
  unfold switchCase
  mvcgen <;> simp_all +zetaDelta

@[spec high] theorem switchStatement_takes (s : Text) :
    Takes s (switchStatement g) Item.text := by
  unfold switchStatement
  mvcgen <;> simp_all +zetaDelta

@[spec high] theorem tryStatement_takes (s : Text) : Takes s (tryStatement g) Item.text := by
  unfold tryStatement
  mvcgen <;> simp_all +zetaDelta

/-!
# Loops
-/

@[spec high] theorem bracketedTarget_takes (s : Text) :
    Takes s (bracketedTarget g) Item.text := by
  unfold bracketedTarget
  mvcgen <;> simp_all

@[spec high] theorem loopVariable_takes (counting : Bool) {kw : Parse Item}
    (h : ∀ s, Takes s kw Item.text) (valued : Bool) (s : Text) :
    Takes s (loopVariable g counting kw valued) Item.textOf := by
  unfold loopVariable
  mvcgen [h] <;> simp_all +zetaDelta

@[spec high] theorem loopTarget_takes (counting : Bool) (s : Text) :
    Takes s (loopTarget g counting) Item.textOf := by
  unfold loopTarget
  mvcgen -trivial <;> simp_all +zetaDelta [-String.reduceToList]

@[spec high] theorem forInStatement_takes (s : Text) :
    Takes s (forInStatement g) Item.text := by
  unfold forInStatement
  mvcgen
  simp_all +zetaDelta

@[spec high] theorem loopStart_takes (s : Text) : Takes s (loopStart g) Item.text := by
  unfold loopStart
  mvcgen -trivial <;> simp_all +zetaDelta [-String.reduceToList]

@[spec high] theorem forStatement_takes (s : Text) : Takes s (forStatement g) Item.text := by
  unfold forStatement
  mvcgen <;> simp_all +zetaDelta

@[spec high] theorem whileStatement_takes (s : Text) : Takes s (whileStatement g) Item.text := by
  unfold whileStatement
  mvcgen
  simp_all

@[spec high] theorem doBody_takes (s : Text) : Takes s (doBody g) Item.text := by
  unfold doBody
  mvcgen <;> simp_all

@[spec high] theorem doStatement_takes (s : Text) : Takes s (doStatement g) Item.text := by
  unfold doStatement
  mvcgen <;> simp_all +zetaDelta

@[spec high] theorem withStatement_takes (s : Text) : Takes s (withStatement g) Item.text := by
  unfold withStatement
  mvcgen
  simp_all

/-!
# Jumps and labels
-/

@[spec high] theorem returnStatement_takes (s : Text) :
    Takes s (returnStatement g) Item.text := by
  unfold returnStatement
  mvcgen <;> simp_all

@[spec high] theorem throwStatement_takes (s : Text) : Takes s (throwStatement g) Item.text := by
  unfold throwStatement
  mvcgen
  simp_all

@[spec high] theorem labeledStatement_takes (s : Text) :
    Takes s (labeledStatement g) Item.text := by
  unfold labeledStatement
  mvcgen
  simp_all +zetaDelta

@[spec high] theorem plainStatement_takes (w rest s : Text) :
    Takes s (plainStatement g w rest) Item.text := by
  unfold plainStatement
  mvcgen <;> simp_all

end Parse
end ComponentDecl
