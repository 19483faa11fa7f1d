import Mathlib
import ComponentDecl.Proofs.Parse.Cover

set_option mvcgen.warning false

/-!
# What parsers yield

A parser yields a property if every result it returns has it, whatever it reads.  This
module has the rules for the parsers that read lexemes, for choice and for loops; the rules
for the constructs of the grammar follow from them.
-/

namespace ComponentDecl
namespace Parse

open Std.Do

/-- Every result that the parser returns has the property. -/
abbrev Yields {α : Type} (p : Parse α) (P : α → Prop) : Prop :=
  ⦃⌜True⌝⦄ p ⦃⇓? a => ⌜P a⌝⦄

/-!
# Results
-/

theorem wp_of_ok {α : Type} {p : Parse α} {t rest : Text} {a : α} (h : p t = .ok (a, rest))
    (Q : PostCond α (.arg Text (.except Nat .pure))) : wp⟦p⟧ Q t = Q.1 a rest := by
  change wp⟦p t⟧ (fun r => Q.1 r.1 r.2, Q.2) = Q.1 a rest
  rw [h]
  rfl

theorem wp_of_error {α : Type} {p : Parse α} {t : Text} {n : Nat} (h : p t = .error n)
    (Q : PostCond α (.arg Text (.except Nat .pure))) : wp⟦p⟧ Q t = Q.2.1 n := by
  change wp⟦p t⟧ (fun r => Q.1 r.1 r.2, Q.2) = Q.2.1 n
  rw [h]
  rfl

theorem triple_iff {α : Type} {p : Parse α} {P : Text → Prop} {Q : α → Text → Prop} :
    (⦃fun t => ⌜P t⌝⦄ p ⦃⇓? a t => ⌜Q a t⌝⦄) ↔
      ∀ t a rest, P t → p t = .ok (a, rest) → Q a rest := by
  constructor
  · intro h t a rest ht hp
    have hpost := h t ht
    rw [wp_of_ok hp] at hpost
    exact hpost
  · intro h t ht
    cases hp : p t with
    | error n =>
        rw [wp_of_error hp]
        trivial
    | ok r =>
        rw [wp_of_ok hp]
        exact h t r.1 r.2 ht hp

theorem yields_iff {α : Type} {p : Parse α} {P : α → Prop} :
    Yields p P ↔ ∀ t a rest, p t = .ok (a, rest) → P a := by
  have h := triple_iff (p := p) (P := fun _ => True) (Q := fun a _ => P a)
  simp only [forall_const] at h
  exact h

-- the rule for parsers of which nothing need be known, such as those that look ahead
@[spec low] theorem yields_true {α : Type} (p : Parse α) : Yields p fun _ => True :=
  yields_iff.mpr fun _ _ _ _ => trivial

theorem yields_failure {α : Type} (P : α → Prop) : Yields (failure : Parse α) P := by
  rw [yields_iff]
  intro t a rest h
  cases h

@[spec] theorem failure_yields_false {α : Type} :
    Yields (failure : Parse α) fun _ => False :=
  yields_failure _

theorem orElse_of_ok {α : Type} {p q : Parse α} {t : Text} {r : α × Text}
    (h : p t = .ok r) : (p <|> q) t = .ok r := by
  simp only [HOrElse.hOrElse, OrElse.orElse, Alternative.orElse, h]

theorem orElse_of_error {α : Type} {p q : Parse α} {t : Text} {m : Nat} {r : α × Text}
    (hp : p t = .error m) (h : (p <|> q) t = .ok r) : q t = .ok r := by
  simp only [HOrElse.hOrElse, OrElse.orElse, Alternative.orElse, hp] at h
  split at h
  · rename_i r' hq
    rw [hq, h]
  · cases h

@[spec] theorem yields_orElse {α : Type} {P : α → Prop} {p q : Parse α} (hp : Yields p P)
    (hq : Yields q P) : Yields (p <|> q) P := by
  rw [yields_iff] at hp hq ⊢
  intro t a rest h
  cases hpt : p t with
  | ok r =>
      rw [orElse_of_ok hpt] at h
      exact hp t a rest (hpt.trans h)
  | error m =>
      exact hq t a rest (orElse_of_error hpt h)

@[spec] theorem ensure_yields (b : Bool) : Yields (ensure b) fun _ => b = true := by
  unfold ensure
  mvcgen
  simp

/-!
# Lexemes
-/

theorem yields_lexeme {html : Bool} {scan : Text → Option (Tree × Text)} {P : Item → Prop}
    (h : ∀ lead t tree rest, (∀ u ∈ lead, Tree.IsTrivia u) → scan t = some (tree, rest) →
      P ⟨lead, [tree]⟩) : Yields (lexeme html scan) P := by
  rw [yields_iff]
  intro t i rest hp
  unfold lexeme at hp
  dsimp only at hp
  split at hp
  · rename_i tree more hscan
    rcases Prod.mk.inj (Except.ok.inj hp) with ⟨rfl, rfl⟩
    exact h _ _ tree more (Lexeme.trivia_isTrivia html t) hscan
  · cases hp

@[spec] theorem lexeme_sound {html : Bool} {scan : Text → Option (Tree × Text)}
    (h : ∀ t tree rest, scan t = some (tree, rest) → tree.Sound) :
    Yields (lexeme html scan) Item.Sound := by
  apply yields_lexeme
  intro lead t tree rest hlead hscan
  exact Item.sound_single hlead (h t tree rest hscan)

theorem lexeme_soundNode {html : Bool} {scan : Text → Option (Tree × Text)}
    (h : ∀ t tree rest, scan t = some (tree, rest) → tree.Sound ∧ tree.isNamed = true) :
    Yields (lexeme html scan) Item.SoundNode := by
  apply yields_lexeme
  intro lead t tree rest hlead hscan
  rcases h t tree rest hscan with ⟨hsound, hnamed⟩
  exact ⟨Item.sound_single hlead hsound, tree, rfl, hnamed⟩

theorem scan_sound {α : Type} {o : Option α} {build : α → Tree × Text} {tree : Tree}
    {rest : Text} (h : o.map build = some (tree, rest)) (hb : ∀ m, (build m).1.Sound) :
    tree.Sound := by
  rcases Option.map_eq_some_iff.mp h with ⟨m, _, heq⟩
  have hm := hb m
  rw [heq] at hm
  exact hm

@[spec] theorem mark_sound (s : String) (html : Bool) :
    Yields (mark s html) fun i => i.IsToken ∧ i.Sound := by
  apply yields_lexeme
  intro lead t tree rest hlead hscan
  rcases Option.map_eq_some_iff.mp hscan with ⟨_, _, heq⟩
  rcases Prod.mk.inj heq with ⟨rfl, rfl⟩
  exact ⟨⟨hlead, _, rfl⟩, Item.sound_single hlead (.token _ _)⟩

@[spec] theorem keyword_sound (w : String) (html : Bool) :
    Yields (keyword w html) fun i => i.IsToken ∧ i.Sound := by
  apply yields_lexeme
  intro lead t tree rest hlead hscan
  split at hscan
  · split at hscan
    · rcases Prod.mk.inj (Option.some.inj hscan) with ⟨rfl, rfl⟩
      exact ⟨⟨hlead, _, rfl⟩, Item.sound_single hlead (.token _ _)⟩
    · cases hscan
  · cases hscan

@[spec] theorem word_sound (k : Kind) (html : Bool) :
    Yields (word k html) fun i => i.IsWord k ∧ i.IsNode ∧ (k ∉ Item.nameless → i.Sound) := by
  apply yields_lexeme
  intro lead t tree rest hlead hscan
  rcases Option.map_eq_some_iff.mp hscan with ⟨⟨w, _⟩, hw, heq⟩
  rcases Prod.mk.inj heq with ⟨rfl, rfl⟩
  have hword : Item.IsWord k ⟨lead, [.leaf none k w]⟩ :=
    ⟨hlead, w, rfl, Lexeme.word?_isWord hw⟩
  exact ⟨hword, hword.isNode, hword.sound⟩

@[spec] theorem string_sound (html : Bool) :
    Yields (string html) fun i => i.IsString ∧ i.Sound := by
  apply yields_lexeme
  intro lead t tree rest hlead hscan
  rcases Lexeme.string?_eq_some hscan with ⟨q, trees, tail, _, _, _, rfl⟩
  have hstring : Item.IsString ⟨lead, [.branch none .string (.token none [q] :: trees)]⟩ :=
    ⟨hlead, _, t, rest, rfl, hscan⟩
  exact ⟨hstring, hstring.sound⟩

@[spec] theorem number_sound (html : Bool) :
    Yields (number html) fun i => i.IsKey ∧ i.Sound := by
  apply yields_lexeme
  intro lead t tree rest hlead hscan
  rcases Option.map_eq_some_iff.mp hscan with ⟨⟨n, _⟩, hn, heq⟩
  rcases Prod.mk.inj heq with ⟨rfl, rfl⟩
  exact ⟨Item.isKey_leaf, Item.sound_single hlead (.leaf (Lexeme.number?_isNumber hn))⟩

@[spec] theorem privateName_sound (html : Bool) :
    Yields (privateName html) fun i => i.IsKey ∧ i.Sound := by
  apply yields_lexeme
  intro lead t tree rest hlead hscan
  rcases Option.map_eq_some_iff.mp hscan with ⟨⟨n, _⟩, _, heq⟩
  rcases Prod.mk.inj heq with ⟨rfl, rfl⟩
  exact ⟨Item.isKey_leaf, Item.sound_single hlead (.leaf trivial)⟩

/-!
# Semicolons
-/

theorem insertedWithin_isTrivia {operators : Bool} {fuel : Nat} {t : Text} {trees : List Tree}
    {rest : Text} (h : insertedWithin operators fuel t = some (trees, rest)) :
    ∀ tree ∈ trees, tree.IsTrivia := by
  induction fuel generalizing t trees with
  | zero =>
      cases h
  | succ fuel ih =>
      unfold insertedWithin at h
      split at h
      · rcases Prod.mk.inj (Option.some.inj h) with ⟨rfl, rfl⟩
        simp
      · split at h
        · rename_i first more hahead
          rcases Option.map_eq_some_iff.mp h with ⟨⟨further, r⟩, hm, heq⟩
          rcases Prod.mk.inj heq with ⟨rfl, rfl⟩
          intro tree htree
          rcases List.mem_append.mp htree with hfirst | hfurther
          · exact Lexeme.commentAhead?_isTrivia hahead tree hfirst
          · exact ih hm tree hfurther
        · cases h

/-- Items of one token, or of trivia alone. -/
def Item.IsMark (i : Item) : Prop :=
  (∀ t ∈ i.lead, t.IsTrivia) ∧ ∀ t ∈ i.body, ∃ u, t = .token none u

theorem Item.IsToken.isMark {i : Item} (h : i.IsToken) : i.IsMark := by
  rcases h with ⟨hlead, t, hbody⟩
  exact ⟨hlead, by simp [hbody]⟩

theorem Item.IsMark.sound {i : Item} (h : i.IsMark) : i.Sound := by
  rcases h with ⟨hlead, hbody⟩
  refine ⟨hlead, ?_⟩
  intro t ht
  rcases hbody t ht with ⟨u, rfl⟩
  exact .token _ _

@[spec] theorem insertedSemicolon_sound (operators : Bool) :
    Yields (insertedSemicolon operators) fun i => i.IsMark ∧ i.Sound := by
  rw [yields_iff]
  intro t i rest h
  unfold insertedSemicolon at h
  split at h
  · rename_i lead more hlead
    rcases Prod.mk.inj (Except.ok.inj h) with ⟨rfl, rfl⟩
    have hmark : Item.IsMark ⟨lead, []⟩ := ⟨insertedWithin_isTrivia hlead, by simp⟩
    exact ⟨hmark, hmark.sound⟩
  · cases h

@[spec] theorem semicolon_sound (operators : Bool) :
    Yields (semicolon operators) fun i => i.IsMark ∧ i.Sound := by
  unfold semicolon
  mvcgen
  intro _ htoken hsound
  exact ⟨htoken.isMark, hsound⟩

@[spec] theorem optionalInserted_sound (operators : Bool) :
    Yields (optionalInserted operators) fun is => (∀ i ∈ is, i.IsMark) ∧ Item.SoundAll is := by
  unfold optionalInserted
  mvcgen <;> simp_all

/-!
# Loops

A loop yields a property of its items if each round does.
-/

@[spec] theorem yields_whileWithin {more : Parse Bool} {item : Parse (List Item)} {P : Item → Prop}
    (h : Yields item fun is => ∀ i ∈ is, P i) (fuel : Nat) :
    Yields (whileWithin more item fuel) fun is => ∀ i ∈ is, P i := by
  induction fuel with
  | zero =>
      unfold whileWithin
      mvcgen
      simp
  | succ fuel ih =>
      unfold whileWithin
      mvcgen [h, ih]
      · rename_i first _ hfirst rest _ hrest
        intro i hi
        rcases List.mem_append.mp hi with hi | hi
        · exact hfirst i hi
        · exact hrest i hi
      · simp

theorem yields_whileSees {more : Parse Bool} {item : Parse (List Item)}
    {P : Item → Prop} (h : Yields item fun is => ∀ i ∈ is, P i) :
    Yields (whileSees more item) fun is => ∀ i ∈ is, P i := by
  unfold whileSees
  mvcgen [h]

@[spec] theorem whileSees_sound {more : Parse Bool} {item : Parse (List Item)}
    (h : Yields item Item.SoundAll) : Yields (whileSees more item) Item.SoundAll :=
  yields_whileSees h

@[spec] theorem yields_growWithin {extend : Item → Parse (Option Item)} {P : Item → Prop}
    (h : ∀ i, P i → Yields (extend i) fun j => ∀ i ∈ j, P i) (fuel : Nat) (i : Item)
    (hi : P i) : Yields (growWithin extend fuel i) P := by
  induction fuel generalizing i with
  | zero =>
      unfold growWithin
      mvcgen
  | succ fuel ih =>
      unfold growWithin
      mvcgen [h, ih]
      rename_i j _
      intro _ hj
      exact hj j rfl

theorem yields_grow {extend : Item → Parse (Option Item)} {P : Item → Prop}
    (h : ∀ i, P i → Yields (extend i) fun j => ∀ i ∈ j, P i) (i : Item) (hi : P i) :
    Yields (grow extend i) P := by
  unfold grow
  mvcgen [h]
  · intro _
    assumption
  · intro _
    exact hi

@[spec] theorem grow_sound {extend : Item → Parse (Option Item)}
    (h : ∀ i, i.SoundNode → Yields (extend i) fun j => ∀ i ∈ j, i.SoundNode) (i : Item)
    (hi : i.SoundNode) : Yields (grow extend i) Item.SoundNode :=
  yields_grow h i hi

theorem yields_listed {close : String} {element : Parse Item} {P : Item → Prop}
    (h : Yields element P) (hmark : ∀ i, i.IsToken → P i) :
    Yields (listed close element) fun is => ∀ i ∈ is, P i := by
  apply yields_whileSees
  mvcgen [h] <;> simp_all

@[spec] theorem listed_sound {close : String} {element : Parse Item}
    (h : Yields element Item.Sound) : Yields (listed close element) Item.SoundAll :=
  yields_listed h fun _ hi => hi.sound

end Parse
end ComponentDecl
