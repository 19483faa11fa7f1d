import Mathlib
import ComponentDecl.Proofs.Taken
import ComponentDecl.Proofs.Parse.Module

set_option mvcgen.warning false

/-!
# What parsers take

A parser takes the text of what it returns from the head of the input: nothing is dropped,
and nothing is added.  This module has the rules for the parsers that look ahead or read
lexemes, for choice and for loops; the rules for the constructs of the grammar follow from
them.  The rules stand before those for what parsers yield.
-/

namespace ComponentDecl
namespace Parse

open Std.Do

/-!
# The text of items
-/

namespace Item

/-- The text of an item and of the trivia in front of it. -/
def text (i : Item) : Text :=
  Tree.textAll i.lead ++ Tree.textAll i.body

def textOf (is : List Item) : Text :=
  is.flatMap text

@[simp] theorem textOf_nil : textOf [] = [] :=
  rfl

@[simp] theorem textOf_cons (i : Item) (is : List Item) :
    textOf (i :: is) = i.text ++ textOf is := by
  simp [textOf]

@[simp] theorem textOf_append (is js : List Item) :
    textOf (is ++ js) = textOf is ++ textOf js := by
  simp [textOf]

@[simp] theorem text_mk (lead body : List Tree) :
    text ⟨lead, body⟩ = Tree.textAll lead ++ Tree.textAll body :=
  rfl

@[simp] theorem textAll_trees (is : List Item) : Tree.textAll (trees is) = textOf is := by
  induction is with
  | nil =>
      rfl
  | cons i rest ih =>
      have htrees : trees (i :: rest) = i.lead ++ i.body ++ trees rest := rfl
      rw [htrees, Tree.textAll_append, Tree.textAll_append, ih, textOf_cons, text]

@[simp] theorem text_node (k : Kind) (is : List Item) : (node k is).text = textOf is := by
  cases is with
  | nil =>
      rfl
  | cons i rest =>
      simp [node, text, Tree.textAll, Tree.text, Tree.textAll_append]

theorem textAll_map {f : Tree → Tree} (hf : ∀ t, (f t).text = t.text) (ts : List Tree) :
    Tree.textAll (ts.map f) = Tree.textAll ts := by
  induction ts with
  | nil =>
      rfl
  | cons t rest ih =>
      simp only [List.map_cons, Tree.textAll, hf, ih]

@[simp] theorem text_inField (f : Field) (i : Item) : (i.inField f).text = i.text := by
  have hf : ∀ t : Tree, (t.inField f).text = t.text := by
    intro t
    cases t <;> rfl
  unfold inField text
  rw [textAll_map hf]

@[simp] theorem textOf_map_inField (f : Field) (is : List Item) :
    textOf (is.map (inField f)) = textOf is := by
  simp [textOf, List.flatMap_map]

@[simp] theorem text_recast (k : Kind) (i : Item) : (i.recast k).text = i.text := by
  unfold recast text
  rw [textAll_map]
  intro t
  cases t <;> rfl

end Item

/-!
# Parsers that take what they return
-/

/-- The parser takes the text `w a` of its result `a` from the head of the input `s`. -/
abbrev Takes {α : Type} (s : Text) (p : Parse α) (w : α → Text) : Prop :=
  ⦃fun t => ⌜t = s⌝⦄ p ⦃⇓? a t => ⌜s = w a ++ t⌝⦄

/-- The parser goes on from a text `u` at the head of `s` that was read before it: its
result stands for both. -/
abbrev TakesOn {α : Type} (s u : Text) (p : Parse α) (w : α → Text) : Prop :=
  ⦃fun t => ⌜s = u ++ t⌝⦄ p ⦃⇓? a t => ⌜s = w a ++ t⌝⦄

/-- The parser reads nothing. -/
abbrev Looks {α : Type} (s : Text) (p : Parse α) : Prop :=
  ⦃fun t => ⌜t = s⌝⦄ p ⦃⇓? _ t => ⌜t = s⌝⦄

theorem takes_iff {α : Type} {s : Text} {p : Parse α} {w : α → Text} :
    Takes s p w ↔ ∀ a rest, p s = .ok (a, rest) → s = w a ++ rest := by
  constructor
  · intro h a rest hp
    exact triple_iff.mp h s a rest rfl hp
  · intro h
    refine triple_iff.mpr ?_
    rintro t a rest rfl hp
    exact h a rest hp

theorem takes_and_yields {α : Type} {s : Text} {p : Parse α} {w : α → Text} {P : α → Prop}
    (h : Takes s p w) (hP : Yields p P) :
    ⦃fun t => ⌜t = s⌝⦄ p ⦃⇓? a t => ⌜s = w a ++ t ∧ P a⌝⦄ := by
  refine triple_iff.mpr ?_
  rintro t a rest rfl hp
  exact ⟨takes_iff.mp h a rest hp, yields_iff.mp hP t a rest hp⟩

theorem triple_orElse {α : Type} {p q : Parse α} {P : Text → Prop} {Q : α → Text → Prop}
    (hp : ⦃fun t => ⌜P t⌝⦄ p ⦃⇓? a t => ⌜Q a t⌝⦄)
    (hq : ⦃fun t => ⌜P t⌝⦄ q ⦃⇓? a t => ⌜Q a t⌝⦄) :
    ⦃fun t => ⌜P t⌝⦄ (p <|> q) ⦃⇓? a t => ⌜Q a t⌝⦄ := by
  rw [triple_iff] at hp hq ⊢
  intro t a rest ht h
  cases hpt : p t with
  | ok r =>
      rw [orElse_of_ok hpt] at h
      exact hp t a rest ht (hpt.trans h)
  | error m =>
      exact hq t a rest ht (orElse_of_error hpt h)

@[spec high] theorem item_orElse_takes {s : Text} {p q : Parse Item} (hp : Takes s p Item.text)
    (hq : Takes s q Item.text) : Takes s (p <|> q) Item.text :=
  triple_orElse hp hq

@[spec high] theorem items_orElse_takes {s : Text} {p q : Parse (List Item)}
    (hp : Takes s p Item.textOf) (hq : Takes s q Item.textOf) :
    Takes s (p <|> q) Item.textOf :=
  triple_orElse hp hq

/-!
# Looking ahead
-/

@[spec high] theorem ahead_looks (html : Bool) (s : Text) :
    ⦃fun t => ⌜t = s⌝⦄ ahead html ⦃⇓? a t => ⌜t = s ∧ a = Lexeme.trivia html s⌝⦄ := by
  refine triple_iff.mpr ?_
  rintro t a rest rfl h
  cases h
  exact ⟨rfl, rfl⟩

@[spec high] theorem next_looks (html : Bool) (s : Text) :
    ⦃fun t => ⌜t = s⌝⦄ next html ⦃⇓? a t => ⌜t = s ∧ a = (Lexeme.trivia html s).2⌝⦄ := by
  unfold next
  mvcgen
  simp_all

@[spec high] theorem sees_looks (w : String) (html : Bool) (s : Text) :
    Looks s (sees w html) := by
  unfold sees
  mvcgen
  simp_all

@[spec high] theorem seesWord_looks (w : String) (html : Bool) (s : Text) :
    Looks s (seesWord w html) := by
  unfold seesWord
  mvcgen
  simp_all

@[spec high] theorem get_looks (s : Text) :
    ⦃fun t => ⌜t = s⌝⦄ (get : Parse Text) ⦃⇓? a t => ⌜t = s ∧ a = s⌝⦄ := by
  refine triple_iff.mpr ?_
  rintro t a rest rfl h
  cases h
  exact ⟨rfl, rfl⟩

@[spec high] theorem left_looks (s : Text) : Looks s left := by
  refine triple_iff.mpr ?_
  rintro t a rest rfl h
  cases h
  rfl

@[spec high] theorem ensure_looks (b : Bool) (s : Text) :
    ⦃fun t => ⌜t = s⌝⦄ ensure b ⦃⇓? _ t => ⌜t = s ∧ b = true⌝⦄ := by
  unfold ensure
  mvcgen
  simp_all

@[spec high] theorem seesInserted_looks (operators : Bool) (s : Text) :
    Looks s (seesInserted operators) := by
  refine triple_iff.mpr ?_
  rintro t a rest rfl h
  cases h
  rfl

@[spec high] theorem noHtmlComment_looks (s : Text) : Looks s noHtmlComment := by
  unfold noHtmlComment
  mvcgen
  simp_all

/-!
# Lexemes
-/

@[spec high] theorem lexeme_takes {html : Bool} {scan : Text → Option (Tree × Text)}
    (h : ∀ t tree rest, scan t = some (tree, rest) → t = tree.text ++ rest) (s : Text) :
    Takes s (lexeme html scan) Item.text := by
  rw [takes_iff]
  intro i rest hp
  unfold lexeme at hp
  dsimp only at hp
  split at hp
  · rename_i tree more hscan
    rcases Prod.mk.inj (Except.ok.inj hp) with ⟨rfl, rfl⟩
    have htrivia := Lexeme.trivia_takes html s
    rw [h _ tree more hscan] at htrivia
    simpa [Tree.textAll] using htrivia
  · cases hp

/-- A scanner of texts from which a tree of the same text is built. -/
theorem scan_takes {o : Option (Text × Text)} {build : Text → Tree} {t rest : Text} {tree : Tree}
    (h : o.map (fun m => (build m.1, m.2)) = some (tree, rest))
    (hb : ∀ u, (build u).text = u) (ho : ∀ u rest, o = some (u, rest) → t = u ++ rest) :
    t = tree.text ++ rest := by
  rcases Option.map_eq_some_iff.mp h with ⟨⟨u, r⟩, hu, heq⟩
  rcases Prod.mk.inj heq with ⟨rfl, rfl⟩
  rw [hb]
  exact ho u r hu

/-- A tree for a mark that is found at the head of a text. -/
theorem strip?_takes {m t rest : Text} {found tree : Tree} (hm : found.text = m)
    (h : (Text.strip? m t).map (fun r => (found, r)) = some (tree, rest)) :
    t = tree.text ++ rest := by
  rcases Option.map_eq_some_iff.mp h with ⟨r, hr, heq⟩
  rcases Prod.mk.inj heq with ⟨rfl, rfl⟩
  rw [hm]
  exact Text.strip?_eq_some.mp hr

@[spec high] theorem mark_takes (m : String) (html : Bool) (s : Text) :
    Takes s (mark m html) Item.text :=
  lexeme_takes (fun _ _ _ => strip?_takes rfl) s

@[spec high] theorem keyword_takes (w : String) (html : Bool) (s : Text) :
    Takes s (keyword w html) Item.text := by
  apply lexeme_takes
  intro t tree rest h
  split at h
  · rename_i v more hv
    split at h
    · rcases Prod.mk.inj (Option.some.inj h) with ⟨rfl, rfl⟩
      exact Lexeme.word?_takes hv
    · cases h
  · cases h

/-- The text of a word is the word at the head of the input. -/
theorem word_spec (k : Kind) (html : Bool) (s : Text) :
    ⦃fun t => ⌜t = s⌝⦄ word k html
    ⦃⇓? i t => ⌜s = i.text ++ t ∧
      ∃ rest, Lexeme.word? (Lexeme.trivia html s).2 = some (Tree.textAll i.body, rest)⌝⦄ := by
  refine triple_iff.mpr ?_
  rintro t i rest rfl hp
  constructor
  · refine takes_iff.mp (lexeme_takes ?_ t) i rest hp
    intro t tree rest h
    exact scan_takes h (fun _ => rfl) fun _ _ => Lexeme.word?_takes
  · unfold word lexeme at hp
    dsimp only at hp
    split at hp
    · rename_i tree more hscan
      rcases Prod.mk.inj (Except.ok.inj hp) with ⟨rfl, rfl⟩
      rcases Option.map_eq_some_iff.mp hscan with ⟨⟨w, r⟩, hw, heq⟩
      rcases Prod.mk.inj heq with ⟨rfl, rfl⟩
      exact ⟨r, by simpa [Tree.textAll, Tree.text] using hw⟩
    · cases hp

@[spec high] theorem word_takes (k : Kind) (html : Bool) (s : Text) :
    Takes s (word k html) Item.text := by
  mvcgen [word_spec, -word_sound]
  simp_all

@[spec high] theorem string_takes (html : Bool) (s : Text) : Takes s (string html) Item.text :=
  lexeme_takes (fun _ _ _ => Lexeme.string?_takes) s

@[spec high] theorem number_takes (html : Bool) (s : Text) :
    Takes s (number html) Item.text := by
  apply lexeme_takes
  intro t tree rest h
  exact scan_takes h (fun _ => rfl) fun _ _ => Lexeme.number?_takes

@[spec high] theorem privateName_takes (html : Bool) (s : Text) :
    Takes s (privateName html) Item.text := by
  apply lexeme_takes
  intro t tree rest h
  exact scan_takes h (fun _ => rfl) fun _ _ => Lexeme.privateName?_takes

/-!
# Semicolons
-/

@[spec high] theorem insertedSemicolon_takes (operators : Bool) (s : Text) :
    Takes s (insertedSemicolon operators) Item.text := by
  rw [takes_iff]
  intro i rest h
  unfold insertedSemicolon at h
  split at h
  · rename_i lead more hlead
    rcases Prod.mk.inj (Except.ok.inj h) with ⟨rfl, rfl⟩
    simpa [Tree.textAll] using insertedWithin_takes hlead
  · cases h

@[spec high] theorem semicolon_takes (operators : Bool) (s : Text) :
    Takes s (semicolon operators) Item.text :=
  triple_orElse (insertedSemicolon_takes operators s) (mark_takes ";" false s)

@[spec high] theorem optionalInserted_takes (operators : Bool) (s : Text) :
    Takes s (optionalInserted operators) Item.textOf := by
  unfold optionalInserted
  mvcgen <;> simp_all

/-!
# Loops
-/

@[spec high] theorem whileWithin_takes {more : Parse Bool} {item : Parse (List Item)}
    (hmore : ∀ s, Looks s more) (hitem : ∀ s, Takes s item Item.textOf) (fuel : Nat) (s : Text) :
    Takes s (whileWithin more item fuel) Item.textOf := by
  induction fuel generalizing s with
  | zero =>
      unfold whileWithin
      mvcgen
      simp_all
  | succ fuel ih =>
      unfold whileWithin
      mvcgen [hmore, hitem, ih, -yields_whileWithin] <;> simp_all

@[spec high] theorem whileSees_takes {more : Parse Bool} {item : Parse (List Item)}
    (hmore : ∀ s, Looks s more) (hitem : ∀ s, Takes s item Item.textOf) (s : Text) :
    Takes s (whileSees more item) Item.textOf := by
  unfold whileSees
  mvcgen [hmore, hitem]
  simp_all

@[spec high] theorem growWithin_takes {extend : Item → Parse (Option Item)}
    (h : ∀ i s, TakesOn s i.text (extend i) fun j => (j.getD i).text) (fuel : Nat) (i : Item)
    (s : Text) : TakesOn s i.text (growWithin extend fuel i) Item.text := by
  induction fuel generalizing i with
  | zero =>
      unfold growWithin
      mvcgen
  | succ fuel ih =>
      unfold growWithin
      mvcgen [h, ih, -yields_growWithin] <;> simp_all

@[spec high] theorem grow_takes {extend : Item → Parse (Option Item)}
    (h : ∀ i s, TakesOn s i.text (extend i) fun j => (j.getD i).text) (i : Item)
    (s : Text) : TakesOn s i.text (grow extend i) Item.text := by
  unfold grow
  mvcgen [h]
  simp_all

@[spec high] theorem listed_takes {close : String} {element : Parse Item}
    (h : ∀ s, Takes s element Item.text) (s : Text) :
    Takes s (listed close element) Item.textOf := by
  unfold listed
  mvcgen [h] <;> simp_all

end Parse
end ComponentDecl
