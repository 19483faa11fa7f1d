import ComponentDecl.Module
import ComponentDecl.Proofs.Parse.Takes.Statement

set_option mvcgen.warning false

/-!
# The text of a source

Imports, exports and whole sources.  The tree of a source holds exactly its text.
-/

namespace ComponentDecl
namespace Parse

open Std.Do

/-!
# Imports
-/

@[spec high] theorem exportedName_takes (s : Text) : Takes s exportedName Item.text := by
  unfold exportedName
  mvcgen <;> simp_all

@[spec high] theorem namespaceImport_takes (s : Text) : Takes s namespaceImport Item.text := by
  unfold namespaceImport
  mvcgen
  simp_all

@[spec high] theorem importSpecifier_takes (s : Text) : Takes s importSpecifier Item.text := by
  unfold importSpecifier
  mvcgen <;> simp_all

@[spec high] theorem trailed_takes {element : Parse Item} (h : ∀ s, Takes s element Item.text)
    (s : Text) : Takes s (trailed element) Item.textOf := by
  unfold trailed
  mvcgen [h] <;> simp_all

@[spec high] theorem namedImports_takes (s : Text) : Takes s namedImports Item.text := by
  unfold namedImports
  mvcgen
  simp_all

@[spec high] theorem importGroup_takes (s : Text) : Takes s importGroup Item.text := by
  unfold importGroup
  mvcgen <;> simp_all

@[spec high] theorem importClause_takes (s : Text) : Takes s importClause Item.text := by
  unfold importClause
  mvcgen <;> simp_all

@[spec high] theorem fromClause_takes (s : Text) : Takes s fromClause Item.textOf := by
  unfold fromClause
  mvcgen
  simp_all

variable {g : Grammar} (hg : g.Faithful)

include hg in
@[spec high] theorem importStatement_takes (s : Text) :
    Takes s (importStatement g) Item.text := by
  unfold importStatement
  mvcgen <;> simp_all +zetaDelta

/-!
# Exports
-/

@[spec high] theorem exportSpecifier_takes (s : Text) : Takes s exportSpecifier Item.text := by
  unfold exportSpecifier
  mvcgen <;> simp_all +zetaDelta

@[spec high] theorem exportClause_takes (s : Text) : Takes s exportClause Item.text := by
  unfold exportClause
  mvcgen
  simp_all

@[spec high] theorem exportAll_takes (s : Text) : Takes s exportAll Item.textOf := by
  unfold exportAll
  mvcgen <;> simp_all

@[spec high] theorem exportNames_takes (s : Text) : Takes s exportNames Item.textOf := by
  unfold exportNames
  mvcgen <;> simp_all

include hg

@[spec high] theorem declaration_takes (operators : Bool) (s : Text) :
    Takes s (declaration g operators) Item.text := by
  unfold declaration
  mvcgen -trivial <;> simp_all +zetaDelta [-String.reduceToList]

@[spec high] theorem exportDefault_takes (s : Text) :
    Takes s (exportDefault g) Item.textOf := by
  unfold exportDefault
  mvcgen -trivial [-items_orElse_takes, -yields_orElse, -yields_true]
  case vc3 =>
      rename_i hs kw _ hkw _ _
      rintro t rfl _
      -- both alternatives go on from the keyword
      refine triple_orElse (P := fun t => s = kw.text ++ t)
        (Q := fun is t => s = Item.textOf is ++ t) ?_ ?_ t (hs ▸ hkw)
      · mvcgen -trivial <;> simp_all
      · mvcgen
        simp_all
  all_goals simp_all

@[spec high] theorem exportStatement_takes (front : List Item) (s : Text) :
    TakesOn s (Item.textOf front) (exportStatement g front) Item.text := by
  unfold exportStatement
  mvcgen -trivial <;> simp_all +zetaDelta [-String.reduceToList]

/-!
# Statements
-/

@[spec high] theorem decoratedStatement_takes (s : Text) :
    Takes s (decoratedStatement g) Item.text := by
  unfold decoratedStatement
  mvcgen <;> simp_all

@[spec high] theorem statementOfWord_takes (w rest s : Text) :
    Takes s (statementOfWord g w rest) Item.text := by
  unfold statementOfWord
  mvcgen -trivial
  all_goals first | (intros; assumption) | simp_all only [Item.textOf_nil, List.nil_append]

@[spec high] theorem statement_takes (s : Text) : Takes s (statement g) Item.text := by
  unfold statement
  mvcgen <;> simp_all

omit hg

/-!
# Whole sources
-/

/-- The grammar is faithful at every depth. -/
theorem grammar_faithful (depth : Nat) : (grammar depth).Faithful := by
  induction depth with
  | zero =>
      exact Grammar.empty_faithful
  | succ depth ih =>
      exact {
        binary := binary_takes ih
        operand := operand_takes ih
        chain := chain_takes ih
        pattern := pattern_takes ih
        object := objectLiteral_takes ih
        element := element_takes ih
        statement := statement_takes ih }

@[spec high] theorem systemLine_takes (s : Text) : Takes s systemLine Item.textOf := by
  unfold systemLine
  mvcgen
  case vc1 =>
      intro t tree rest h
      rcases Prod.mk.inj (Option.some.inj h) with ⟨rfl, rfl⟩
      exact (Text.span_spec _ t).1
  all_goals simp_all

theorem program_text (depth : Nat) (s : Text) :
    ⦃fun t => ⌜t = s⌝⦄ program depth ⦃⇓? tree => ⌜tree.text = s⌝⦄ := by
  have hg := grammar_faithful depth
  unfold program
  mvcgen
  rename_i hs front _ hfront body rest hbody _ _ hlook _ _ hend
  rcases hlook with ⟨-, rfl⟩
  have htrail := Lexeme.trivia_takes true rest
  rw [List.isEmpty_iff.mp hend.2, List.append_nil] at htrail
  rw [← hs, hfront, hbody]
  simp [Tree.text, Tree.textAll_append, ← htrail]

/-- The tree that the grammar gives a source holds exactly the text of the source. -/
theorem readProgram_text {source : Text} {t : Tree} (h : readProgram source = .ok t) :
    t.text = source := by
  unfold readProgram at h
  cases hp : program (source.length + 2) source with
  | error n =>
      rw [StateT.run', hp] at h
      cases h
  | ok r =>
      rw [StateT.run', hp] at h
      obtain rfl : r.1 = t := Except.ok.inj h
      have htext := program_text (source.length + 2) source
      exact triple_iff.mp htext source r.1 r.2 rfl hp

@[simp] theorem flawed_text (source : Text) : (flawed source).text = source := by
  unfold flawed
  cases mistake source with
  | stretch start stop =>
      have h : source.drop (max start stop) =
          (source.drop start).drop (max start stop - start) := by
        rw [List.drop_drop]
        congr 1
        omega
      simp only [Mistake.tree, Tree.text, Tree.textAll, List.append_nil]
      rw [h, List.take_append_drop, List.take_append_drop]
  | missing offset name =>
      simp [Mistake.tree, Tree.text, Tree.textAll]

/-- The tree of a source holds exactly its text, whether the grammar accepts it or not. -/
theorem tree_text (source : Text) : (tree source).text = source := by
  unfold tree
  split
  · rename_i t ht
    exact readProgram_text ht
  · exact flawed_text source

end Parse

/-- The tree of an accepted source holds exactly the text of the source. -/
theorem Module.text_tree {source : Text} {m : Module} (h : parse source = .ok m) :
    m.tree.text = m.source := by
  unfold parse at h
  split at h
  · cases h
  · rcases Except.ok.inj h with rfl
    exact Parse.tree_text source

end ComponentDecl
