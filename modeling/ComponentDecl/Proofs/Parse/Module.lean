import ComponentDecl.Module
import ComponentDecl.Proofs.Parse.Statement

set_option mvcgen.warning false

/-!
# Sound modules

The grammar is sound at every depth, so the tree of every source that is accepted is sound.
-/

namespace ComponentDecl
namespace Parse

open Std.Do

/-!
# Imports
-/

@[spec] theorem exportedName_sound : Yields exportedName Item.Sound := by
  unfold exportedName
  mvcgen <;> simp_all

@[spec] theorem namespaceImport_sound : Yields namespaceImport Item.Sound := by
  unfold namespaceImport
  mvcgen
  simp_all

@[spec] theorem importSpecifier_sound : Yields importSpecifier Item.Sound := by
  unfold importSpecifier
  mvcgen <;> simp_all

@[spec] theorem trailed_sound {element : Parse Item} (h : Yields element Item.Sound) :
    Yields (trailed element) Item.SoundAll := by
  unfold trailed
  mvcgen [h] <;> simp_all

@[spec] theorem namedImports_sound : Yields namedImports Item.Sound := by
  unfold namedImports
  mvcgen
  simp_all

@[spec] theorem importGroup_sound : Yields importGroup Item.Sound := by
  unfold importGroup
  mvcgen

@[spec] theorem importClause_sound : Yields importClause Item.Sound := by
  unfold importClause
  mvcgen <;> simp_all

/-!
# Exports
-/

/-- Items in which a class fills the field of an exported value. -/
def Item.PlacesWell (i : Item) : Prop :=
  ∀ t ∈ i.body, t.isClass = true → t.field = some .declaration ∨ t.field = some .value

@[simp] theorem Item.NoClass.placesWell {i : Item} (h : i.NoClass) : i.PlacesWell := by
  intro t ht hclass
  rw [h t ht] at hclass
  cases hclass

theorem Item.IsMark.noClass {i : Item} (h : i.IsMark) : i.NoClass := by
  intro t ht
  rcases h.2 t ht with ⟨u, rfl⟩
  rfl

@[simp] theorem Item.IsMark.placesWell {i : Item} (h : i.IsMark) : i.PlacesWell :=
  h.noClass.placesWell

@[simp] theorem Item.IsToken.placesWell {i : Item} (h : i.IsToken) : i.PlacesWell :=
  h.isMark.placesWell

@[simp] theorem Item.placesWell_declaration {i : Item} :
    (i.inField .declaration).PlacesWell := by
  intro t ht hclass
  rcases List.mem_map.mp ht with ⟨u, _, rfl⟩
  cases u with
  | gap =>
      cases hclass
  | _ =>
      exact Or.inl rfl

@[simp] theorem Item.placesWell_value {i : Item} : (i.inField .value).PlacesWell := by
  intro t ht hclass
  rcases List.mem_map.mp ht with ⟨u, _, rfl⟩
  cases u with
  | gap =>
      cases hclass
  | _ =>
      exact Or.inr rfl

@[simp] theorem Item.IsString.placesWell_inField {f : Field} {i : Item} (h : i.IsString) :
    (i.inField f).PlacesWell := by
  rcases h with ⟨_, cs, _, _, hbody, _⟩
  intro t ht hclass
  rcases List.mem_map.mp ht with ⟨u, hu, rfl⟩
  rw [hbody] at hu
  rcases List.mem_singleton.mp hu with rfl
  cases hclass

/-- Rows of sound items in which classes are exported values. -/
def Item.ExportAll (is : List Item) : Prop :=
  Item.SoundAll is ∧ ∀ i ∈ is, i.PlacesWell

@[simp] theorem Item.exportAll_nil : Item.ExportAll [] := by
  simp [ExportAll]

@[simp] theorem Item.exportAll_cons {i : Item} {is : List Item} :
    Item.ExportAll (i :: is) ↔ (i.Sound ∧ i.PlacesWell) ∧ Item.ExportAll is := by
  simp only [ExportAll, soundAll_cons, List.forall_mem_cons]
  tauto

@[simp] theorem Item.exportAll_append {is js : List Item} :
    Item.ExportAll (is ++ js) ↔ Item.ExportAll is ∧ Item.ExportAll js := by
  simp only [ExportAll, soundAll_append, List.forall_mem_append]
  tauto

@[spec] theorem fromClause_sound : Yields fromClause Item.ExportAll := by
  unfold fromClause
  mvcgen
  simp_all

@[spec] theorem exportSpecifier_sound : Yields exportSpecifier Item.Sound := by
  unfold exportSpecifier
  mvcgen <;> simp_all +zetaDelta

@[spec] theorem exportClause_sound :
    Yields exportClause fun i => i.Sound ∧ i.PlacesWell := by
  unfold exportClause
  mvcgen
  simp_all

@[spec] theorem exportAll_sound : Yields exportAll Item.ExportAll := by
  unfold exportAll
  mvcgen <;> simp_all

@[spec] theorem exportNames_sound : Yields exportNames Item.ExportAll := by
  unfold exportNames
  mvcgen <;> simp_all

variable {g : Grammar} (hg : g.Sound)
include hg

@[spec] theorem importStatement_sound : Yields (importStatement g) Item.Sound := by
  unfold importStatement
  mvcgen
  -- the object behind `with` is no pattern
  case vc3 =>
      rename_i hopen _ _ hpattern _ _ _
      have hsound := hopen.1.sound (by simpa using hpattern)
      simp_all
  case vc6 =>
      rename_i hopen _ _ hpattern _ _ _
      have hsound := hopen.1.sound (by simpa using hpattern)
      simp_all [Item.ExportAll]
  all_goals simp_all [Item.ExportAll]

@[spec] theorem declaration_sound (operators : Bool) :
    Yields (declaration g operators) Item.Sound := by
  unfold declaration
  mvcgen -trivial <;> simp_all +zetaDelta [-String.reduceToList]

@[spec] theorem exportDefault_sound : Yields (exportDefault g) Item.ExportAll := by
  unfold exportDefault
  mvcgen -trivial <;> simp_all +zetaDelta [-String.reduceToList]

omit hg in
/-- A class in an export fills the field of an exported value. -/
@[simp] theorem sound_exportStatement {is : List Item} (h : Item.ExportAll is) :
    (Item.node .exportStatement is).Sound := by
  rcases h with ⟨hsound, hplaces⟩
  apply Item.sound_node_of hsound
  intro t ht hclass
  rcases Item.mem_inside hsound.lead ht with htrivia | ⟨i, hi, hbody⟩
  · rw [htrivia.isClass_eq_false] at hclass
    cases hclass
  · exact hplaces i hi t hbody hclass

@[spec] theorem exportStatement_sound {front : List Item} (hfront : Item.SoundAll front)
    (hclass : ∀ i ∈ front, i.NoClass) : Yields (exportStatement g front) Item.Sound := by
  unfold exportStatement
  have hall : Item.ExportAll front := ⟨hfront, fun i hi => (hclass i hi).placesWell⟩
  mvcgen -trivial <;> simp_all +zetaDelta [-String.reduceToList]

/-!
# Statements
-/

@[spec] theorem decoratedStatement_sound : Yields (decoratedStatement g) Item.Sound := by
  unfold decoratedStatement
  mvcgen <;> simp_all

@[spec] theorem statementOfWord_sound (w rest : Text) :
    Yields (statementOfWord g w rest) Item.Sound := by
  unfold statementOfWord
  mvcgen -trivial <;> simp_all +zetaDelta [-String.reduceToList]

@[spec] theorem statement_sound : Yields (statement g) Item.Sound := by
  unfold statement
  mvcgen <;> simp_all

omit hg

/-!
# Whole sources
-/

/-- The grammar is sound at every depth. -/
theorem grammar_sound (depth : Nat) : (grammar depth).Sound := by
  induction depth with
  | zero =>
      exact Grammar.empty_sound
  | succ depth ih =>
      exact {
        binary := fun s least hs => sound_of_fits hs (binary_fits ih s least)
        covering := fun s least => open_of_fits (binary_fits ih s least)
        operand := fun s hs => sound_of_fits hs (operand_fits ih s)
        chain := chain_sound ih
        pattern := pattern_sound ih
        object := objectLiteral_open ih
        element := fun _ ho => element_sound ih ho
        statement := statement_sound ih }

@[spec] theorem systemLine_sound : Yields systemLine Item.SoundAll := by
  unfold systemLine
  mvcgen
  case vc1 =>
      intro t tree rest hscan
      rcases Prod.mk.inj (Option.some.inj hscan) with ⟨rfl, _⟩
      exact .leaf trivial
  all_goals simp_all

@[spec] theorem ahead_isTrivia (html : Bool) :
    Yields (ahead html) fun a => ∀ t ∈ a.1, t.IsTrivia := by
  rw [yields_iff]
  intro t a rest h
  rcases Prod.mk.inj (Except.ok.inj h) with ⟨rfl, _⟩
  exact Lexeme.trivia_isTrivia html t

theorem sound_program {items : List Item} {trail : List Tree} (hitems : Item.SoundAll items)
    (htrail : ∀ t ∈ trail, t.IsTrivia) :
    (Tree.branch none .program (Item.trees items ++ trail)).Sound := by
  refine .branch trivial ?_
  intro c hc
  rcases List.mem_append.mp hc with hc | hc
  · rcases Item.mem_trees.mp hc with ⟨i, hi, hlead | hbody⟩
    · exact ((hitems i hi).lead c hlead).sound
    · exact (hitems i hi).body c hbody
  · exact (htrail c hc).sound

theorem program_sound (depth : Nat) : Yields (program depth) Tree.Sound := by
  have hg := grammar_sound depth
  unfold program
  mvcgen
  apply sound_program
  · simp_all +zetaDelta
  · simp_all

theorem readProgram_sound {source : Text} {t : Tree} (h : readProgram source = .ok t) :
    t.Sound := by
  unfold readProgram at h
  cases hp : program (source.length + 2) source with
  | error n =>
      rw [StateT.run', hp] at h
      cases h
  | ok r =>
      rw [StateT.run', hp] at h
      obtain rfl : r.1 = t := Except.ok.inj h
      exact yields_iff.mp (program_sound (source.length + 2)) source r.1 r.2 hp

/-- Trees of rejected sources hold a mistake. -/
theorem flawed_firstError (source : Text) :
    (Cursor.root (flawed source)).firstError? ≠ none := by
  unfold flawed
  cases mistake source with
  | stretch start stop =>
      simp [Mistake.tree, Cursor.firstError?, Cursor.tree, Cursor.firstErrorIn,
        Cursor.firstErrorInRow, Tree.hasMistake, Tree.hasMistakeAll]
  | missing offset name =>
      simp [Mistake.tree, Cursor.firstError?, Cursor.tree, Cursor.firstErrorIn,
        Cursor.firstErrorInRow, Tree.hasMistake, Tree.hasMistakeAll]

end Parse

/-- The tree of a source that is accepted is sound. -/
theorem Module.sound_tree {source : Text} {m : Module} (h : parse source = .ok m) :
    m.tree.Sound := by
  unfold parse at h
  split at h
  · cases h
  · rename_i hnone
    rcases Except.ok.inj h with rfl
    -- an accepted tree is none of the flawed ones, so the grammar has built it
    change (Parse.tree source).Sound
    unfold Parse.tree at hnone ⊢
    split at hnone
    · rename_i t ht
      exact Parse.readProgram_sound ht
    · exact absurd hnone (Parse.flawed_firstError source)

end ComponentDecl
