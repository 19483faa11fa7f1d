import ComponentDecl.Proofs.Parse.Takes.Grammar

set_option mvcgen.warning false

/-!
# Faithful functions and classes
-/

namespace ComponentDecl
namespace Parse

open Std.Do

@[simp] theorem FunctionParts.text_toExpression (f : FunctionParts) :
    f.toExpression.text = Item.textOf f.items := by
  simp [toExpression]

@[simp] theorem FunctionParts.text_toDeclaration (f : FunctionParts) (tail : List Item) :
    (f.toDeclaration tail).text = Item.textOf f.items ++ Item.textOf tail := by
  simp [toDeclaration]

@[simp] theorem ClassParts.text_toExpression (c : ClassParts) :
    c.toExpression.text = Item.textOf c.items := by
  simp [toExpression]

@[simp] theorem ClassParts.text_toDeclaration (c : ClassParts) (tail : List Item) :
    (c.toDeclaration tail).text = Item.textOf c.items ++ Item.textOf tail := by
  simp [toDeclaration]

/-!
# Words in front of a member
-/

@[spec high] theorem optionalKeyword_takes (w : String) (s : Text) :
    Takes s (optionalKeyword w) Item.textOf := by
  unfold optionalKeyword
  mvcgen <;> simp_all

@[spec high] theorem seesModifier_looks (w : String) (inClass : Bool) (s : Text) :
    Looks s (seesModifier w inClass) := by
  unfold seesModifier
  mvcgen <;> simp_all

@[spec high] theorem modifiers_takes (inClass : Bool) (s : Text) :
    Takes s (modifiers inClass) Item.textOf := by
  unfold modifiers
  mvcgen -trivial
  case vc1 =>
      intro t tree rest h
      exact scan_takes h (fun _ => rfl) fun _ _ => staticGet?_takes
  all_goals
    simp_all only [Item.textOf_nil, Item.textOf_cons, Item.textOf_append, List.append_assoc,
      List.nil_append]

@[spec high] theorem seesStaticBlock_looks (s : Text) : Looks s seesStaticBlock := by
  unfold seesStaticBlock
  mvcgen <;> simp_all

@[spec high] theorem taggedTemplate_takes (s : Text) : Takes s taggedTemplate Item.text := by
  apply lexeme_takes
  intro t tree rest h
  rcases Option.bind_eq_some_iff.mp h with ⟨tail, htail, h⟩
  rcases Option.bind_eq_some_iff.mp h with ⟨⟨more, r⟩, hmore, heq⟩
  rcases Prod.mk.inj (Option.some.inj heq) with ⟨rfl, rfl⟩
  rw [Text.strip?_eq_some.mp htail, templateContent_takes hmore]
  simp [Tree.text, Tree.textAll]

variable {g : Grammar} (hg : g.Faithful)
include hg

/-!
# Functions
-/

@[spec high] theorem functionParts_takes (operators : Bool) (s : Text) :
    Takes s (functionParts g operators) fun f => Item.textOf f.items := by
  unfold functionParts
  mvcgen <;> simp_all

@[spec high] theorem methodTail_takes (front : List Item) (name : Item) (s : Text) :
    TakesOn s (Item.textOf front ++ name.text) (methodTail g front name) Item.text := by
  unfold methodTail
  mvcgen
  simp_all

/-!
# Decorators
-/

omit hg in
@[spec high] theorem decoratorMember_takes (i : Item) (s : Text) :
    TakesOn s i.text (decoratorMember i) fun j => (j.getD i).text := by
  unfold decoratorMember
  mvcgen <;> simp_all

@[spec high] theorem decorator_takes (s : Text) : Takes s (decorator g) Item.text := by
  unfold decorator
  mvcgen <;> simp_all +zetaDelta

@[spec high] theorem decorators_takes (s : Text) : Takes s (decorators g) Item.textOf := by
  unfold decorators
  mvcgen
  simp_all

/-!
# Members
-/

@[spec high] theorem staticBlock_takes (s : Text) : Takes s (staticBlock g) Item.text := by
  unfold staticBlock
  mvcgen
  simp_all

@[spec high] theorem fieldOrMethod_takes (s : Text) :
    Takes s (fieldOrMethod g) Item.textOf := by
  unfold fieldOrMethod
  mvcgen <;> simp_all +zetaDelta

@[spec high] theorem member_takes (s : Text) : Takes s (member g) Item.textOf := by
  unfold member
  mvcgen <;> simp_all

@[spec high] theorem classBody_takes (s : Text) : Takes s (classBody g) Item.text := by
  unfold classBody
  mvcgen <;> simp_all

@[spec high] theorem classParts_takes (front : List Item) (s : Text) :
    TakesOn s (Item.textOf front) (classParts g front) fun c => Item.textOf c.items := by
  unfold classParts
  mvcgen <;> simp_all

end Parse
end ComponentDecl
