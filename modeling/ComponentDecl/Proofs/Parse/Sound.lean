import ComponentDecl.Parse.Basic
import ComponentDecl.Proofs.Quoted

/-!
# Sound trees

What can be said of every tree that the grammar builds: the texts of its comments, names
and numbers, the members of its objects and the strings among their keys, the names of its
classes and the places of the classes in its exports.
-/

namespace ComponentDecl
namespace Tree

/-!
# Soundness
-/

/-- What the text of a leaf looks like.  Strings, pairs and classes are no leaves. -/
def LeafSound : Kind → Text → Prop
  | .comment, t => Lexeme.IsComment t
  | .identifier, t => Lexeme.IsWord t
  | .propertyIdentifier, t => Lexeme.IsWord t
  | .number, t => Lexeme.IsNumber t
  | .string, _ => False
  | .pair, _ => False
  | .classDeclaration, _ => False
  | _, _ => True

/-- A string in the place of a key is one that the scanner of strings found. -/
def KeySound : Tree → Prop
  | branch _ .string cs =>
      ∃ t rest, Lexeme.string? t = some (branch none .string cs, rest)
  | _ => True

/-- The field is filled, and by named nodes only. -/
def Fills (f : Field) (cs : List Tree) : Prop :=
  (∃ t ∈ cs, t.field = some f) ∧ ∀ t ∈ cs, t.field = some f → t.isNamed = true

/-- The kinds of nodes between the braces of an object literal. -/
abbrev entryKinds : List Kind :=
  [.pair, .spreadElement, .shorthandPropertyIdentifier, .methodDefinition, .comment,
   .htmlComment]

/-- What may stand between the braces of an object literal: its members, comments, and
what has no kind. -/
def IsEntry (t : Tree) : Prop :=
  ∀ k ∈ t.kind?, k ∈ entryKinds

/-- Whether a tree is a class, declared or as an expression. -/
def isClass (t : Tree) : Bool :=
  t.kind? == some .classDeclaration || t.kind? == some .classExpression

/-- What the children of a node look like.  An object has no other nodes than its members, a
pair has a key and a value, a class that is declared has a name, the name of a class is an
identifier, and a class in an export is the exported value. -/
def BranchSound : Kind → List Tree → Prop
  | .comment, _ => False
  | .identifier, _ => False
  | .propertyIdentifier, _ => False
  | .number, _ => False
  | .object, cs => ∀ t ∈ cs, t.IsEntry
  | .pair, cs =>
      Fills .key cs ∧ Fills .value cs ∧ ∀ t ∈ cs, t.field = some .key → KeySound t
  | .classDeclaration, cs =>
      (∃ t ∈ cs, t.field = some .name) ∧
        ∀ t ∈ cs, t.field = some .name → t.kind? = some .identifier
  | .classExpression, cs => ∀ t ∈ cs, t.field = some .name → t.kind? = some .identifier
  | .exportStatement, cs =>
      ∀ t ∈ cs, t.isClass = true → t.field = some .declaration ∨ t.field = some .value
  | _, _ => True

/-- Trees whose leaves and nodes all look as the grammar makes them. -/
inductive Sound : Tree → Prop where
  | gap (t : Text) : Sound (gap t)
  | token (f : Option Field) (t : Text) : Sound (token f t)
  | leaf {f : Option Field} {k : Kind} {t : Text} (h : LeafSound k t) : Sound (leaf f k t)
  | branch {f : Option Field} {k : Kind} {cs : List Tree} (h : BranchSound k cs)
      (hcs : ∀ c ∈ cs, Sound c) : Sound (branch f k cs)
  | missing (f : Option Field) (n : Text) : Sound (missing f n)

attribute [simp] Sound.gap Sound.token Sound.missing

@[simp] theorem sound_leaf {f : Option Field} {k : Kind} {t : Text} :
    (leaf f k t).Sound ↔ LeafSound k t := by
  constructor
  · rintro ⟨⟩
    assumption
  · exact Sound.leaf

@[simp] theorem sound_branch {f : Option Field} {k : Kind} {cs : List Tree} :
    (branch f k cs).Sound ↔ BranchSound k cs ∧ ∀ c ∈ cs, c.Sound := by
  constructor
  · rintro ⟨⟩
    exact ⟨by assumption, by assumption⟩
  · rintro ⟨h, hcs⟩
    exact Sound.branch h hcs

@[simp] theorem sound_inField {f : Field} {t : Tree} : (t.inField f).Sound ↔ t.Sound := by
  cases t <;> simp [inField]

theorem Sound.children {t : Tree} (h : t.Sound) : ∀ c ∈ t.children, c.Sound := by
  cases h with
  | branch _ hcs =>
      exact hcs
  | gap =>
      simp [Tree.children]
  | token =>
      simp [Tree.children]
  | leaf =>
      simp [Tree.children]
  | missing =>
      simp [Tree.children]

theorem field_inField {f : Field} {t : Tree} :
    (t.inField f).field = some f ∨ (t.inField f).field = none := by
  cases t <;> simp [inField, field]

@[simp] theorem kind?_inField {f : Field} {t : Tree} : (t.inField f).kind? = t.kind? := by
  cases t <;> rfl

theorem field_inField_of_isNamed {f : Field} {t : Tree} (h : t.isNamed = true) :
    (t.inField f).field = some f := by
  cases t with
  | gap =>
      cases h
  | _ =>
      rfl

theorem KeySound.inField {f : Field} {t : Tree} (h : t.KeySound) : (t.inField f).KeySound := by
  cases t with
  | branch g k cs =>
      cases k <;> exact h
  | gap =>
      trivial
  | token =>
      trivial
  | leaf =>
      trivial
  | missing =>
      trivial

/-!
# Trivia
-/

/-- White space and comments, which fill no field. -/
def IsTrivia : Tree → Prop
  | gap _ => True
  | leaf none .comment t => Lexeme.IsComment t
  | leaf none .htmlComment _ => True
  | _ => False

theorem IsTrivia.sound {t : Tree} (h : t.IsTrivia) : t.Sound := by
  unfold IsTrivia at h
  split at h
  · exact .gap _
  · exact .leaf h
  · exact .leaf trivial
  · cases h

theorem IsTrivia.field_eq_none {t : Tree} (h : t.IsTrivia) : t.field = none := by
  unfold IsTrivia at h
  split at h
  · rfl
  · rfl
  · rfl
  · cases h

theorem IsTrivia.isEntry {t : Tree} (h : t.IsTrivia) : t.IsEntry := by
  unfold IsTrivia at h
  split at h
  · simp [IsEntry, kind?]
  · simp [IsEntry, kind?, entryKinds]
  · simp [IsEntry, kind?, entryKinds]
  · cases h

theorem IsTrivia.isClass_eq_false {t : Tree} (h : t.IsTrivia) : t.isClass = false := by
  unfold IsTrivia at h
  split at h
  · rfl
  · rfl
  · rfl
  · cases h

end Tree

namespace Lexeme

theorem gap_isTrivia (t : Text) : ∀ tree ∈ gap t, tree.IsTrivia := by
  intro tree htree
  unfold gap at htree
  split at htree
  · cases htree
  · rcases List.mem_singleton.mp htree with rfl
    trivial

theorem commentAhead?_isTrivia {html : Bool} {t : Text} {trees : List Tree} {rest : Text}
    (h : commentAhead? html t = some (trees, rest)) : ∀ tree ∈ trees, tree.IsTrivia := by
  unfold commentAhead? at h
  dsimp only at h
  split at h
  · rcases Prod.mk.inj (Option.some.inj h) with ⟨rfl, rfl⟩
    intro tree htree
    rcases List.mem_append.mp htree with hgap | hleaf
    · exact gap_isTrivia _ tree hgap
    · rcases List.mem_singleton.mp hleaf with rfl
      trivial
  · rcases Option.map_eq_some_iff.mp h with ⟨m, hm, heq⟩
    rcases Prod.mk.inj heq with ⟨rfl, rfl⟩
    intro tree htree
    rcases List.mem_append.mp htree with hgap | hleaf
    · exact gap_isTrivia _ tree hgap
    · rcases List.mem_singleton.mp hleaf with rfl
      have hcomment : comment? _ = some (m.1, m.2) := hm
      exact comment?_isComment hcomment

theorem triviaWithin_isTrivia (html : Bool) (fuel : Nat) (t : Text) :
    ∀ tree ∈ (triviaWithin html fuel t).1, tree.IsTrivia := by
  induction fuel generalizing t with
  | zero =>
      intro tree htree
      cases htree
  | succ fuel ih =>
      intro tree htree
      unfold triviaWithin at htree
      split at htree
      · rename_i trees rest hahead
        rcases List.mem_append.mp htree with hfirst | hmore
        · exact commentAhead?_isTrivia hahead tree hfirst
        · exact ih rest tree hmore
      · exact gap_isTrivia _ tree htree

theorem trivia_isTrivia (html : Bool) (t : Text) :
    ∀ tree ∈ (trivia html t).1, tree.IsTrivia :=
  triviaWithin_isTrivia html (t.length + 1) t

/-!
# Quoted lexemes
-/

theorem StringTail.sound {q : Char} {t : Text} {trees : List Tree} {rest : Text}
    (h : StringTail q t trees rest) : ∀ tree ∈ trees, tree.Sound := by
  induction h with
  | plain _ _ _ _ ih =>
      intro tree htree
      rcases List.mem_cons.mp htree with rfl | htree
      · exact .leaf trivial
      · exact ih tree htree
  | escape _ _ ih =>
      intro tree htree
      rcases List.mem_cons.mp htree with rfl | htree
      · exact .leaf trivial
      · exact ih tree htree
  | comment _ hc _ ih =>
      intro tree htree
      rcases List.mem_append.mp htree with hcomment | htree
      · exact (commentAhead?_isTrivia hc tree hcomment).sound
      · exact ih tree htree
  | close =>
      intro tree htree
      rcases List.mem_append.mp htree with hgap | htoken
      · exact (gap_isTrivia _ tree hgap).sound
      · rcases List.mem_singleton.mp htoken with rfl
        exact .token _ _

theorem string?_sound {t : Text} {tree : Tree} {rest : Text}
    (h : string? t = some (tree, rest)) : tree.Sound := by
  rcases string?_eq_some h with ⟨q, trees, tail, _, _, htail, rfl⟩
  refine .branch trivial ?_
  intro c hc
  rcases List.mem_cons.mp hc with rfl | hc
  · exact .token _ _
  · exact htail.sound c hc

theorem attributeTail_sound {q : Char} {fuel : Nat} {t : Text} {trees : List Tree}
    {rest : Text} (h : attributeTail q fuel t = some (trees, rest)) :
    ∀ tree ∈ trees, tree.Sound := by
  induction fuel generalizing t trees with
  | zero =>
      cases h
  | succ fuel ih =>
      unfold attributeTail at h
      dsimp only at h
      split at h
      · rcases Option.map_eq_some_iff.mp h with ⟨⟨more, r⟩, hm, heq⟩
        rcases Prod.mk.inj heq with ⟨rfl, rfl⟩
        intro tree htree
        rcases List.mem_cons.mp htree with rfl | htree
        · exact .leaf trivial
        · exact ih hm tree htree
      · split at h
        · split at h
          · rcases Prod.mk.inj (Option.some.inj h) with ⟨rfl, rfl⟩
            intro tree htree
            rcases List.mem_singleton.mp htree with rfl
            exact .token _ _
          · cases h
        · cases h
        · rcases Option.map_eq_some_iff.mp h with ⟨⟨more, r⟩, hm, heq⟩
          rcases Prod.mk.inj heq with ⟨rfl, rfl⟩
          intro tree htree
          rcases List.mem_cons.mp htree with rfl | htree
          · exact .leaf trivial
          · exact ih hm tree htree

theorem attributeString?_sound {t : Text} {tree : Tree} {rest : Text}
    (h : attributeString? t = some (tree, rest)) : tree.Sound := by
  unfold attributeString? at h
  split at h
  · split at h
    · rcases Option.map_eq_some_iff.mp h with ⟨⟨more, r⟩, hm, heq⟩
      rcases Prod.mk.inj heq with ⟨rfl, rfl⟩
      refine .branch trivial ?_
      intro c hc
      rcases List.mem_cons.mp hc with rfl | hc
      · exact .token _ _
      · exact attributeTail_sound hm c hc
    · cases h
  · cases h

theorem regexFlags_sound (t : Text) : ∀ tree ∈ (regexFlags t).1, tree.Sound := by
  intro tree htree
  unfold regexFlags at htree
  dsimp only at htree
  split at htree
  · cases htree
  · rcases List.mem_singleton.mp htree with rfl
    exact .leaf trivial

theorem lateFlags?_sound {t : Text} {trees : List Tree} {rest : Text}
    (h : lateFlags? t = some (trees, rest)) : ∀ tree ∈ trees, tree.Sound := by
  unfold lateFlags? at h
  dsimp only at h
  split at h
  · rename_i _ flag flags _ _ hflags
    rcases Prod.mk.inj (Option.some.inj h) with ⟨rfl, rfl⟩
    intro tree htree
    rcases List.mem_append.mp htree with htrivia | hflag
    · exact (trivia_isTrivia false t tree htrivia).sound
    · apply regexFlags_sound
      rw [hflags]
      exact hflag
  · cases h

/-- What stands between a pattern and its closing slash is trivia. -/
theorem regex?_sound {t : Text} {tree : Tree} {rest : Text}
    (h : regex? t = some (tree, rest)) : tree.Sound := by
  unfold regex? at h
  split at h
  · split at h
    · cases h
    · split at h
      · rename_i tail _ _ c cs after _
        dsimp only at h
        split at h
        · rename_i more hclose
          rcases Prod.mk.inj (Option.some.inj h) with ⟨rfl, rfl⟩
          refine .branch trivial ?_
          intro c hc
          rcases List.mem_append.mp hc with hc | hflags
          · rcases List.mem_append.mp hc with hc | hslash
            · rcases List.mem_append.mp hc with hc | hbetween
              · rcases List.mem_pair.mp hc with rfl | rfl
                · exact .token _ _
                · exact .leaf trivial
              · split at hbetween
                · cases hbetween
                · split at hbetween
                  · exact (trivia_isTrivia false _ c hbetween).sound
                  · cases hbetween
            · rcases List.mem_singleton.mp hslash with rfl
              exact .token _ _
          · exact regexFlags_sound _ c hflags
        · cases h
      · cases h
  · cases h

theorem regex?_isNamed {t : Text} {tree : Tree} {rest : Text}
    (h : regex? t = some (tree, rest)) : tree.isNamed = true := by
  unfold regex? at h
  grind [Tree.isNamed, Tree.kind?]

end Lexeme

namespace Parse
namespace Item

/-!
# Items
-/

/-- Items of trivia and sound trees. -/
structure Sound (i : Item) : Prop where
  lead : ∀ t ∈ i.lead, t.IsTrivia
  body : ∀ t ∈ i.body, t.Sound

/-- Rows of sound items. -/
def SoundAll (is : List Item) : Prop :=
  ∀ i ∈ is, i.Sound

theorem SoundAll.lead {is : List Item} (h : SoundAll is) :
    ∀ i ∈ is, ∀ t ∈ i.lead, t.IsTrivia :=
  fun i hi => (h i hi).lead

@[simp] theorem soundAll_nil : SoundAll [] := by
  simp [SoundAll]

@[simp] theorem soundAll_cons {i : Item} {is : List Item} :
    SoundAll (i :: is) ↔ i.Sound ∧ SoundAll is := by
  simp [SoundAll]

@[simp] theorem soundAll_append {is js : List Item} :
    SoundAll (is ++ js) ↔ SoundAll is ∧ SoundAll js :=
  List.forall_mem_append

@[simp] theorem soundAll_reverse {is : List Item} : SoundAll is.reverse ↔ SoundAll is := by
  simp [SoundAll]

theorem sound_single {lead : List Tree} {tree : Tree} (hlead : ∀ t ∈ lead, t.IsTrivia)
    (htree : tree.Sound) : Sound ⟨lead, [tree]⟩ := by
  refine ⟨hlead, ?_⟩
  intro t ht
  rcases List.mem_singleton.mp ht with rfl
  exact htree

@[simp] theorem sound_alone {tree : Tree} : Sound ⟨[], [tree]⟩ ↔ tree.Sound := by
  constructor
  · intro h
    exact h.body tree List.mem_cons_self
  · intro h
    exact sound_single (by simp) h

@[simp] theorem sound_token {i : Item} {f : Option Field} {t : Text} (h : i.Sound) :
    Sound ⟨i.lead, [.token f t]⟩ :=
  sound_single h.lead (.token f t)

/-- Items of one token, which fills no field. -/
def IsToken (i : Item) : Prop :=
  (∀ t ∈ i.lead, t.IsTrivia) ∧ ∃ t, i.body = [.token none t]

/-- Items of one name, as a leaf of the given kind. -/
def IsWord (k : Kind) (i : Item) : Prop :=
  (∀ t ∈ i.lead, t.IsTrivia) ∧ ∃ w, i.body = [.leaf none k w] ∧ Lexeme.IsWord w

/-- The kinds of leaves that a name is none of. -/
abbrev nameless : List Kind :=
  [.comment, .number, .string, .pair, .classDeclaration]

theorem IsToken.sound {i : Item} (h : i.IsToken) : i.Sound := by
  rcases h with ⟨hlead, t, hbody⟩
  exact ⟨hlead, by simp [hbody]⟩

/-- Items of one string that the scanner of strings found. -/
def IsString (i : Item) : Prop :=
  (∀ t ∈ i.lead, t.IsTrivia) ∧
    ∃ cs t rest, i.body = [.branch none .string cs] ∧
      Lexeme.string? t = some (.branch none .string cs, rest)

theorem IsString.sound {i : Item} (h : i.IsString) : i.Sound := by
  rcases h with ⟨hlead, cs, t, rest, hbody, hscan⟩
  refine ⟨hlead, ?_⟩
  intro u hu
  rw [hbody] at hu
  rcases List.mem_singleton.mp hu with rfl
  exact Lexeme.string?_sound hscan

theorem leafSound_of_isWord {k : Kind} {w : Text} (hk : k ∉ nameless)
    (hw : Lexeme.IsWord w) : Tree.LeafSound k w := by
  cases k with
  | identifier =>
      exact hw
  | propertyIdentifier =>
      exact hw
  | _ =>
      trivial

theorem IsWord.sound {k : Kind} {i : Item} (h : i.IsWord k) (hk : k ∉ nameless) :
    i.Sound := by
  rcases h with ⟨hlead, w, hbody, hw⟩
  refine ⟨hlead, ?_⟩
  simp [hbody, leafSound_of_isWord hk hw]

@[simp] theorem sound_inField {f : Field} {i : Item} : (i.inField f).Sound ↔ i.Sound := by
  constructor
  · rintro ⟨hlead, hbody⟩
    refine ⟨hlead, ?_⟩
    intro t ht
    exact Tree.sound_inField.mp (hbody (t.inField f) (List.mem_map_of_mem ht))
  · rintro ⟨hlead, hbody⟩
    refine ⟨hlead, ?_⟩
    intro t ht
    rcases List.mem_map.mp ht with ⟨u, hu, rfl⟩
    exact Tree.sound_inField.mpr (hbody u hu)

@[simp] theorem soundAll_map_inField {f : Field} {is : List Item} :
    SoundAll (is.map (inField f)) ↔ SoundAll is := by
  simp [SoundAll]

theorem eq_of_mem_inField {f f' : Field} {i : Item} {t : Tree} (ht : t ∈ (i.inField f).body)
    (hfield : t.field = some f') : f' = f := by
  rcases List.mem_map.mp ht with ⟨u, _, rfl⟩
  rcases Tree.field_inField (f := f) (t := u) with h | h
  · rw [h] at hfield
    exact (Option.some.inj hfield).symm
  · rw [h] at hfield
    cases hfield

theorem mem_trees {is : List Item} {t : Tree} :
    t ∈ trees is ↔ ∃ i ∈ is, t ∈ i.lead ∨ t ∈ i.body := by
  simp [trees]

/-- The children of the node made of a row of items. -/
def inside : List Item → List Tree
  | [] => []
  | i :: rest => i.body ++ trees rest

theorem mem_inside {is : List Item} (hlead : ∀ i ∈ is, ∀ t ∈ i.lead, t.IsTrivia) {t : Tree}
    (ht : t ∈ inside is) : t.IsTrivia ∨ ∃ i ∈ is, t ∈ i.body := by
  cases is with
  | nil =>
      cases ht
  | cons i rest =>
      rcases List.mem_append.mp ht with hbody | hrest
      · exact Or.inr ⟨i, List.mem_cons_self, hbody⟩
      · rcases mem_trees.mp hrest with ⟨j, hj, htrivia | hbody⟩
        · exact Or.inl (hlead j (List.mem_cons_of_mem i hj) t htrivia)
        · exact Or.inr ⟨j, List.mem_cons_of_mem i hj, hbody⟩

theorem mem_inside_of_mem_body {is : List Item} {i : Item} (hi : i ∈ is) {t : Tree}
    (ht : t ∈ i.body) : t ∈ inside is := by
  cases is with
  | nil =>
      cases hi
  | cons j rest =>
      rcases List.mem_cons.mp hi with rfl | hrest
      · exact List.mem_append_left _ ht
      · exact List.mem_append_right _ (mem_trees.mpr ⟨i, hrest, Or.inr ht⟩)

theorem sound_node_of {k : Kind} {is : List Item} (his : SoundAll is)
    (hk : Tree.BranchSound k (inside is)) : (node k is).Sound := by
  have hinside : ∀ t ∈ inside is, t.Sound := by
    intro t ht
    rcases mem_inside his.lead ht with htrivia | ⟨i, hi, hbody⟩
    · exact htrivia.sound
    · exact (his i hi).body t hbody
  cases is with
  | nil =>
      exact ⟨by simp [node], by simpa [node, inside] using hk⟩
  | cons i rest =>
      refine ⟨(his i List.mem_cons_self).lead, ?_⟩
      intro t ht
      rcases List.mem_singleton.mp ht with rfl
      exact .branch hk hinside

/-- The kinds of nodes whose text or children are restricted. -/
abbrev restricted : List Kind :=
  [.comment, .identifier, .propertyIdentifier, .number, .string, .object, .pair,
   .classDeclaration, .classExpression, .exportStatement]

theorem branchSound_of_notMem {k : Kind} (hk : k ∉ restricted) (cs : List Tree) :
    Tree.BranchSound k cs := by
  cases k <;> trivial

@[simp] theorem sound_node {k : Kind} {is : List Item} (hk : k ∉ restricted)
    (his : SoundAll is) : (node k is).Sound :=
  sound_node_of his (branchSound_of_notMem hk _)

/-- Items of one named node. -/
def IsNode (i : Item) : Prop :=
  ∃ t, i.body = [t] ∧ t.isNamed = true

@[simp] theorem isNode_node {k : Kind} {is : List Item} : (node k is).IsNode := by
  cases is with
  | nil =>
      exact ⟨_, rfl, rfl⟩
  | cons i rest =>
      exact ⟨_, rfl, rfl⟩

theorem exists_mem_inField_of_isNode {f : Field} {i : Item} (h : i.IsNode) :
    ∃ t ∈ (i.inField f).body, t.field = some f := by
  rcases h with ⟨t, hbody, hnamed⟩
  refine ⟨t.inField f, ?_, Tree.field_inField_of_isNamed hnamed⟩
  simp [Item.inField, hbody]

theorem isNamed_of_mem_inField {f : Field} {i : Item} (h : i.IsNode) {t : Tree}
    (ht : t ∈ (i.inField f).body) : t.isNamed = true := by
  rcases h with ⟨u, hbody, hnamed⟩
  rcases List.mem_map.mp ht with ⟨v, hv, rfl⟩
  rw [hbody] at hv
  rcases List.mem_singleton.mp hv with rfl
  simpa [Tree.isNamed] using hnamed

theorem field_of_mem_inField {f : Field} {i : Item} (h : i.IsNode) {t : Tree}
    (ht : t ∈ (i.inField f).body) : t.field = some f := by
  rcases h with ⟨u, hbody, hnamed⟩
  rcases List.mem_map.mp ht with ⟨v, hv, rfl⟩
  rw [hbody] at hv
  rcases List.mem_singleton.mp hv with rfl
  exact Tree.field_inField_of_isNamed hnamed

theorem IsWord.isNode {k : Kind} {i : Item} (h : i.IsWord k) : i.IsNode := by
  rcases h with ⟨_, w, hbody, _⟩
  exact ⟨_, hbody, rfl⟩

@[simp] theorem IsString.isNode {i : Item} (h : i.IsString) : i.IsNode := by
  rcases h with ⟨_, cs, t, rest, hbody, _⟩
  exact ⟨_, hbody, rfl⟩

/-- Sound items of one named node, as expressions are. -/
def SoundNode (i : Item) : Prop :=
  i.Sound ∧ i.IsNode

@[simp] theorem soundNode_iff {i : Item} : i.SoundNode ↔ i.Sound ∧ i.IsNode :=
  Iff.rfl

/-- Items of one named node that may stand in the place of a key. -/
def IsKey (i : Item) : Prop :=
  i.IsNode ∧ ∀ t ∈ i.body, t.KeySound

@[simp] theorem IsKey.isNode {i : Item} (h : i.IsKey) : i.IsNode :=
  h.1

@[simp] theorem isKey_node {k : Kind} {is : List Item} (hk : k ≠ .string) :
    (node k is).IsKey := by
  refine ⟨isNode_node, ?_⟩
  cases is <;> cases k <;> simp_all [node, Tree.KeySound]

@[simp] theorem isKey_leaf {lead : List Tree} {f : Option Field} {k : Kind} {t : Text} :
    IsKey ⟨lead, [.leaf f k t]⟩ := by
  refine ⟨⟨_, rfl, rfl⟩, ?_⟩
  simp [Tree.KeySound]

theorem IsWord.isKey {k : Kind} {i : Item} (h : i.IsWord k) : i.IsKey := by
  refine ⟨h.isNode, ?_⟩
  rcases h with ⟨_, w, hbody, _⟩
  simp [hbody, Tree.KeySound]

@[simp] theorem IsString.isKey {i : Item} (h : i.IsString) : i.IsKey := by
  refine ⟨h.isNode, ?_⟩
  rcases h with ⟨_, cs, t, rest, hbody, hscan⟩
  simp only [hbody, List.mem_singleton, forall_eq, Tree.KeySound]
  exact ⟨t, rest, hscan⟩

theorem IsWord.recast {k : Kind} {i : Item} (h : i.IsWord k) (k' : Kind) :
    (i.recast k').IsWord k' := by
  rcases h with ⟨hlead, w, hbody, hw⟩
  exact ⟨hlead, w, by simp [Item.recast, hbody], hw⟩

@[simp] theorem sound_recast {k : Kind} {i : Item} (hk : k ∉ restricted) (h : i.Sound) :
    (i.recast k).Sound := by
  have hleaf : ∀ t, Tree.LeafSound k t := by
    intro t
    cases k <;> trivial
  refine ⟨h.lead, ?_⟩
  intro t ht
  rcases List.mem_map.mp ht with ⟨u, hu, rfl⟩
  have hsound := h.body u hu
  cases u with
  | leaf f k' w =>
      exact .leaf (hleaf w)
  | gap =>
      exact hsound
  | token =>
      exact hsound
  | branch =>
      exact hsound
  | missing =>
      exact hsound

end Item

end Parse
end ComponentDecl
