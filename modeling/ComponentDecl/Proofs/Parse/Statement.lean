import ComponentDecl.Parse.Statement
import ComponentDecl.Proofs.Parse.Expression

set_option mvcgen.warning false

/-!
# Sound statements
-/

namespace ComponentDecl
namespace Parse

open Std.Do

@[spec] theorem emptyStatement_sound : Yields emptyStatement Item.Sound := by
  unfold emptyStatement
  mvcgen
  simp_all

@[spec] theorem loopOperator_sound : Yields loopOperator Item.Sound := by
  unfold loopOperator
  mvcgen <;> simp_all

@[spec] theorem loopPlace_sound (counting : Bool) {place : Parse Item}
    (h : Yields place Item.Sound) : Yields (loopPlace counting place) Item.SoundAll := by
  unfold loopPlace
  mvcgen [h]
  simp_all

@[spec] theorem jump_sound (w : String) {k : Kind} (hk : k ∉ Item.restricted) :
    Yields (jump w k) Item.Sound := by
  unfold jump
  mvcgen <;> simp_all

@[spec] theorem debuggerStatement_sound : Yields debuggerStatement Item.Sound := by
  unfold debuggerStatement
  mvcgen
  simp_all

variable {g : Grammar} (hg : g.Sound)
include hg

/-!
# Expressions and blocks as statements
-/

@[spec] theorem expressionStatement_sound : Yields (expressionStatement g) Item.Sound := by
  unfold expressionStatement
  mvcgen
  simp_all

@[spec] theorem statementFrom_sound {first : Item} (hfirst : first.SoundNode) :
    Yields (statementFrom g first) Item.Sound := by
  unfold statementFrom
  mvcgen
  simp_all

@[spec] theorem bracedStatement_sound : Yields (bracedStatement g) Item.Sound := by
  unfold bracedStatement
  mvcgen <;> simp_all

/-!
# Declarations
-/

@[spec] theorem declarator_sound {s : Setting} (hs : s.cover = false) :
    Yields (declarator g s) Item.Sound := by
  unfold declarator
  mvcgen <;> simp_all +zetaDelta

@[spec] theorem declarators_sound : Yields (declarators g) Item.SoundAll := by
  unfold declarators
  mvcgen <;> simp_all +zetaDelta

@[spec] theorem variableDeclaration_sound : Yields (variableDeclaration g) Item.Sound := by
  unfold variableDeclaration
  mvcgen
  simp_all

@[spec] theorem lexicalDeclaration_sound (w : String) :
    Yields (lexicalDeclaration g w) Item.Sound := by
  unfold lexicalDeclaration
  mvcgen
  simp_all

@[spec] theorem functionStatement_sound : Yields (functionStatement g) Item.Sound := by
  unfold functionStatement
  mvcgen <;> simp_all

@[spec] theorem classStatement_sound {front : List Item} (hfront : Item.SoundAll front)
    (hnames : ∀ i ∈ front, i.NamesWell) : Yields (classStatement g front) Item.Sound := by
  unfold classStatement
  mvcgen <;> simp_all

/-!
# Branching
-/

@[spec] theorem condition_sound : Yields (condition g) Item.Sound := by
  unfold condition
  mvcgen
  simp_all

@[spec] theorem body_sound : Yields (body g) Item.Sound := by
  unfold body
  mvcgen
  simp_all

@[spec] theorem ifStatement_sound : Yields (ifStatement g) Item.Sound := by
  unfold ifStatement
  mvcgen <;> simp_all +zetaDelta

@[spec] theorem caseBody_sound : Yields (caseBody g) Item.SoundAll := by
  unfold caseBody
  mvcgen
  simp_all

@[spec] theorem switchCase_sound : Yields (switchCase g) Item.Sound := by
  unfold switchCase
  mvcgen <;> simp_all +zetaDelta

@[spec] theorem switchStatement_sound : Yields (switchStatement g) Item.Sound := by
  unfold switchStatement
  mvcgen <;> simp_all +zetaDelta

@[spec] theorem tryStatement_sound : Yields (tryStatement g) Item.Sound := by
  unfold tryStatement
  mvcgen <;> simp_all +zetaDelta

/-!
# Loops
-/

@[spec] theorem bracketedTarget_sound : Yields (bracketedTarget g) Item.Sound := by
  unfold bracketedTarget
  mvcgen
  simp_all

@[spec] theorem loopVariable_sound (counting : Bool) {kw : Parse Item}
    (h : Yields kw fun i => i.IsToken ∧ i.Sound) (valued : Bool) :
    Yields (loopVariable g counting kw valued) Item.SoundAll := by
  unfold loopVariable
  mvcgen [h] <;> simp_all +zetaDelta

@[spec] theorem loopTarget_sound (counting : Bool) :
    Yields (loopTarget g counting) Item.SoundAll := by
  unfold loopTarget
  mvcgen -trivial <;> simp_all +zetaDelta [-String.reduceToList]

@[spec] theorem forInStatement_sound : Yields (forInStatement g) Item.Sound := by
  unfold forInStatement
  mvcgen
  simp_all +zetaDelta

@[spec] theorem loopStart_sound : Yields (loopStart g) Item.Sound := by
  unfold loopStart
  mvcgen -trivial <;> simp_all +zetaDelta [-String.reduceToList]

@[spec] theorem forStatement_sound : Yields (forStatement g) Item.Sound := by
  unfold forStatement
  mvcgen <;> simp_all +zetaDelta

@[spec] theorem whileStatement_sound : Yields (whileStatement g) Item.Sound := by
  unfold whileStatement
  mvcgen
  simp_all

@[spec] theorem doBody_sound : Yields (doBody g) Item.Sound := by
  unfold doBody
  mvcgen
  simp_all

@[spec] theorem doStatement_sound : Yields (doStatement g) Item.Sound := by
  unfold doStatement
  mvcgen <;> simp_all +zetaDelta

@[spec] theorem withStatement_sound : Yields (withStatement g) Item.Sound := by
  unfold withStatement
  mvcgen
  simp_all

/-!
# Jumps and labels
-/

@[spec] theorem returnStatement_sound : Yields (returnStatement g) Item.Sound := by
  unfold returnStatement
  mvcgen <;> simp_all

@[spec] theorem throwStatement_sound : Yields (throwStatement g) Item.Sound := by
  unfold throwStatement
  mvcgen
  simp_all

@[spec] theorem labeledStatement_sound : Yields (labeledStatement g) Item.Sound := by
  unfold labeledStatement
  mvcgen
  simp_all +zetaDelta

@[spec] theorem plainStatement_sound (w rest : Text) :
    Yields (plainStatement g w rest) Item.Sound := by
  unfold plainStatement
  mvcgen -trivial <;> simp_all +zetaDelta [-String.reduceToList]

end Parse
end ComponentDecl
