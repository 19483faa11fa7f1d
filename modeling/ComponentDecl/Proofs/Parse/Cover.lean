import ComponentDecl.Parse.Cover
import ComponentDecl.Proofs.Parse.Sound

/-!
# Literals that may turn out to be patterns

While it is not known whether a literal is a pattern, its objects may have members with a
default, which no sound object has.  Such a literal is open.  It becomes sound when it is
recast as a pattern, and it is sound already if nothing in it fits a pattern only.
-/

namespace ComponentDecl
namespace Tree

/-- Whether a tree is a member with a default, as objects of patterns have them. -/
def IsDefault : Tree → Prop
  | branch _ .objectAssignmentPattern _ => True
  | _ => False

/-- Sound trees, and literals that would be sound but for members with defaults. -/
inductive Open : Tree → Prop where
  | sound {t : Tree} (h : t.Sound) : Open t
  | object {f : Option Field} {cs : List Tree} (h : ∀ c ∈ cs, c.IsEntry ∨ c.IsDefault)
      (hcs : ∀ c ∈ cs, Open c) : Open (branch f .object cs)
  | pair {f : Option Field} {cs : List Tree} (h : BranchSound .pair cs)
      (hkey : ∀ c ∈ cs, c.field ≠ some .value → c.Sound) (hcs : ∀ c ∈ cs, Open c) :
      Open (branch f .pair cs)
  | list {f : Option Field} {k : Kind} {cs : List Tree} (hk : k = .array ∨ k = .spreadElement)
      (hcs : ∀ c ∈ cs, Open c) : Open (branch f k cs)

theorem Open.inField {f : Field} {t : Tree} (h : t.Open) : (t.inField f).Open := by
  cases h with
  | sound h =>
      exact .sound (sound_inField.mpr h)
  | object h hcs =>
      exact .object h hcs
  | pair h hkey hcs =>
      exact .pair h hkey hcs
  | list hk hcs =>
      exact .list hk hcs

end Tree

namespace Parse

/-!
# Closing
-/

theorem anyFitsPatternOnly_eq_any (cs : List Tree) :
    anyFitsPatternOnly cs = cs.any fitsPatternOnly := by
  induction cs with
  | nil =>
      rfl
  | cons c cs ih =>
      rw [anyFitsPatternOnly, ih, List.any_cons]

theorem fitsPatternOnly_of_isDefault {t : Tree} (h : t.IsDefault) : fitsPatternOnly t = true := by
  unfold Tree.IsDefault at h
  split at h
  · rfl
  · cases h

theorem fitsPatternOnly_of_mem {f : Option Field} {k : Kind} {cs : List Tree}
    (hk : k = .object ∨ k = .pair ∨ k = .array ∨ k = .spreadElement)
    (h : fitsPatternOnly (.branch f k cs) = false) : ∀ c ∈ cs, fitsPatternOnly c = false := by
  have hany : cs.any fitsPatternOnly = false := by
    rw [← anyFitsPatternOnly_eq_any]
    rcases hk with rfl | rfl | rfl | rfl <;> exact h
  intro c hc
  exact Bool.eq_false_iff.mpr (List.any_eq_false.mp hany c hc)

theorem sound_of_open {t : Tree} (h : t.Open) (hfits : fitsPatternOnly t = false) : t.Sound := by
  induction h with
  | sound h =>
      exact h
  | object h _ ih =>
      have hnone := fitsPatternOnly_of_mem (Or.inl rfl) hfits
      refine .branch ?_ (fun c hc => ih c hc (hnone c hc))
      intro c hc
      rcases h c hc with hentry | hdefault
      · exact hentry
      · have hc' := hnone c hc
        rw [fitsPatternOnly_of_isDefault hdefault] at hc'
        cases hc'
  | pair h _ _ ih =>
      have hnone := fitsPatternOnly_of_mem (Or.inr (Or.inl rfl)) hfits
      exact .branch h (fun c hc => ih c hc (hnone c hc))
  | list hk _ ih =>
      have hnone := fitsPatternOnly_of_mem (Or.inr (Or.inr hk)) hfits
      refine .branch ?_ (fun c hc => ih c hc (hnone c hc))
      rcases hk with rfl | rfl <;> trivial

/-!
# Recasting as patterns
-/

theorem asPatternAll_sound {cs : List Tree}
    (ih : ∀ c ∈ cs, ∀ p t, asPattern p c = some t → t.Sound) {p : Place} {ts : List Tree}
    (h : asPatternAll p cs = some ts) : ∀ t ∈ ts, t.Sound := by
  induction cs generalizing ts with
  | nil =>
      obtain rfl : [] = ts := Option.some.inj h
      simp
  | cons c cs ihcs =>
      simp only [asPatternAll, Option.bind_eq_bind, Option.bind_eq_some_iff] at h
      rcases h with ⟨t, ht, us, hus, heq⟩
      obtain rfl : t :: us = ts := Option.some.inj heq
      intro u hu
      rcases List.mem_cons.mp hu with rfl | hu
      · exact ih c List.mem_cons_self p u ht
      · exact ihcs (fun d hd => ih d (List.mem_cons_of_mem c hd)) hus u hu

theorem asPatternIn_cons {f : Field} {p : Place} {c : Tree} {cs ts : List Tree}
    (h : asPatternIn f p (c :: cs) = some ts) :
    ∃ t us, (asPattern p c = some t ∨ c.field ≠ some f ∧ c = t) ∧
      asPatternIn f p cs = some us ∧ ts = t :: us := by
  rw [asPatternIn] at h
  split at h
  · rcases Option.bind_eq_some_iff.mp h with ⟨t, ht, h⟩
    rcases Option.bind_eq_some_iff.mp h with ⟨us, hus, heq⟩
    exact ⟨t, us, Or.inl ht, hus, (Option.some.inj heq).symm⟩
  · rename_i hfield
    rcases Option.bind_eq_some_iff.mp h with ⟨t, ht, h⟩
    rcases Option.bind_eq_some_iff.mp h with ⟨us, hus, heq⟩
    refine ⟨t, us, Or.inr ⟨?_, Option.some.inj ht⟩, hus, (Option.some.inj heq).symm⟩
    intro heq
    exact hfield (beq_iff_eq.mpr heq)

theorem asPatternIn_sound {cs : List Tree} {f : Field}
    (hcs : ∀ c ∈ cs, c.field ≠ some f → c.Sound)
    (ih : ∀ c ∈ cs, ∀ p t, asPattern p c = some t → t.Sound) {p : Place}
    {ts : List Tree} (h : asPatternIn f p cs = some ts) : ∀ t ∈ ts, t.Sound := by
  induction cs generalizing ts with
  | nil =>
      obtain rfl : [] = ts := Option.some.inj h
      simp
  | cons c cs ihcs =>
      rcases asPatternIn_cons h with ⟨t, us, ht, hus, rfl⟩
      intro u hu
      rcases List.mem_cons.mp hu with rfl | hu
      · rcases ht with ht | ⟨hfield, rfl⟩
        · exact ih c List.mem_cons_self p u ht
        · exact hcs c List.mem_cons_self hfield
      · exact ihcs (fun d hd => hcs d (List.mem_cons_of_mem c hd))
          (fun d hd => ih d (List.mem_cons_of_mem c hd)) hus u hu

theorem asPattern_sound {t : Tree} (ht : t.Sound) :
    ∀ (p : Place) (u : Tree), asPattern p t = some u → u.Sound := by
  induction ht with
  | gap t =>
      rintro p u ⟨⟩
      simp
  | token f t =>
      rintro p u ⟨⟩
      simp
  | missing f n =>
      rintro p u ⟨⟩
  | leaf hleaf =>
      intro p u h
      simp only [asPattern] at h
      split at h
      · rcases Option.some.inj h with rfl
        exact .leaf hleaf
      · rcases Option.some.inj h with rfl
        exact .leaf hleaf
      · rcases Option.some.inj (Option.ite_none_left_eq_some.mp h).2 with rfl
        exact .leaf hleaf
      · rcases Option.some.inj (Option.ite_none_left_eq_some.mp h).2 with rfl
        exact .leaf hleaf
      · rcases Option.some.inj (Option.ite_none_right_eq_some.mp h).2 with rfl
        exact .leaf trivial
      · cases h
  | branch hbranch hcs ih =>
      intro p u h
      simp only [asPattern] at h
      split at h
      -- members, subscripts and finished patterns stay as they are
      · rcases Option.some.inj (Option.ite_none_left_eq_some.mp h).2 with rfl
        exact .branch hbranch hcs
      · rcases Option.some.inj (Option.ite_none_left_eq_some.mp h).2 with rfl
        exact .branch hbranch hcs
      · rcases Option.some.inj (Option.ite_none_left_eq_some.mp h).2 with rfl
        exact .branch hbranch hcs
      · rcases Option.some.inj (Option.ite_none_left_eq_some.mp h).2 with rfl
        exact .branch hbranch hcs
      -- literals, defaults and spreads become the patterns of their children
      · rcases Option.map_eq_some_iff.mp (Option.ite_none_left_eq_some.mp h).2 with ⟨ts, hts, rfl⟩
        exact .branch trivial (asPatternAll_sound ih hts)
      · rcases Option.map_eq_some_iff.mp (Option.ite_none_left_eq_some.mp h).2 with ⟨ts, hts, rfl⟩
        exact .branch trivial (asPatternAll_sound ih hts)
      · rcases Option.map_eq_some_iff.mp (Option.ite_none_right_eq_some.mp h).2 with ⟨ts, hts, rfl⟩
        exact .branch trivial (asPatternIn_sound (fun c hc _ => hcs c hc) ih hts)
      · rcases Option.map_eq_some_iff.mp (Option.ite_none_left_eq_some.mp h).2 with ⟨ts, hts, rfl⟩
        exact .branch trivial (asPatternAll_sound ih hts)
      · rcases Option.map_eq_some_iff.mp (Option.ite_none_right_eq_some.mp h).2 with ⟨ts, hts, rfl⟩
        exact .branch trivial (asPatternIn_sound (fun c hc _ => hcs c hc) ih hts)
      · rcases Option.some.inj (Option.ite_none_right_eq_some.mp h).2 with rfl
        exact .branch hbranch hcs
      · cases h

theorem asPattern_sound_of_open {t : Tree} (ht : t.Open) :
    ∀ (p : Place) (u : Tree), asPattern p t = some u → u.Sound := by
  induction ht with
  | sound h =>
      exact asPattern_sound h
  | object _ _ ih =>
      intro p u h
      simp only [asPattern] at h
      rcases Option.map_eq_some_iff.mp (Option.ite_none_left_eq_some.mp h).2 with ⟨ts, hts, rfl⟩
      exact .branch trivial (asPatternAll_sound ih hts)
  | pair _ hkey _ ih =>
      intro p u h
      simp only [asPattern] at h
      rcases Option.map_eq_some_iff.mp (Option.ite_none_right_eq_some.mp h).2 with ⟨ts, hts, rfl⟩
      exact .branch trivial (asPatternIn_sound hkey ih hts)
  | list hk _ ih =>
      intro p u h
      rcases hk with rfl | rfl <;> simp only [asPattern] at h
      · rcases Option.map_eq_some_iff.mp (Option.ite_none_left_eq_some.mp h).2 with ⟨ts, hts, rfl⟩
        exact .branch trivial (asPatternAll_sound ih hts)
      · rcases Option.map_eq_some_iff.mp (Option.ite_none_left_eq_some.mp h).2 with ⟨ts, hts, rfl⟩
        exact .branch trivial (asPatternAll_sound ih hts)

theorem isNamed_of_asPattern {t u : Tree} {p : Place} (h : asPattern p t = some u) :
    u.isNamed = t.isNamed := by
  cases t with
  | gap =>
      rcases Option.some.inj h with rfl
      rfl
  | token =>
      rcases Option.some.inj h with rfl
      rfl
  | missing =>
      cases h
  | leaf =>
      simp only [asPattern] at h
      split at h <;> simp at h <;> grind [Tree.isNamed, Tree.kind?]
  | branch =>
      simp only [asPattern] at h
      split at h <;> simp at h <;> grind [Tree.isNamed, Tree.kind?]

/-!
# Items
-/

namespace Item

/-- Items of trivia and open trees. -/
structure Open (i : Item) : Prop where
  lead : ∀ t ∈ i.lead, t.IsTrivia
  body : ∀ t ∈ i.body, t.Open

/-- Rows of open items. -/
def OpenAll (is : List Item) : Prop :=
  ∀ i ∈ is, i.Open

/-- Items that may stand between the braces of an object that may be a pattern. -/
def IsEntry (i : Item) : Prop :=
  ∀ t ∈ i.body, t.IsEntry ∨ t.IsDefault

/-- Open items of one named node. -/
def OpenNode (i : Item) : Prop :=
  i.Open ∧ i.IsNode

@[simp] theorem openNode_iff {i : Item} : i.OpenNode ↔ i.Open ∧ i.IsNode :=
  Iff.rfl

@[simp] theorem Sound.isOpen {i : Item} (h : i.Sound) : i.Open :=
  ⟨h.lead, fun t ht => .sound (h.body t ht)⟩

@[simp] theorem openAll_nil : OpenAll [] := by
  simp [OpenAll]

@[simp] theorem openAll_cons {i : Item} {is : List Item} :
    OpenAll (i :: is) ↔ i.Open ∧ OpenAll is := by
  simp [OpenAll]

@[simp] theorem openAll_append {is js : List Item} :
    OpenAll (is ++ js) ↔ OpenAll is ∧ OpenAll js :=
  List.forall_mem_append

theorem OpenAll.lead {is : List Item} (h : OpenAll is) : ∀ i ∈ is, ∀ t ∈ i.lead, t.IsTrivia :=
  fun i hi => (h i hi).lead

@[simp] theorem Open.inField {f : Field} {i : Item} (h : i.Open) : (i.inField f).Open := by
  refine ⟨h.lead, ?_⟩
  intro t ht
  rcases List.mem_map.mp ht with ⟨u, hu, rfl⟩
  exact (h.body u hu).inField

theorem OpenAll.inside {is : List Item} (h : OpenAll is) : ∀ t ∈ inside is, t.Open := by
  intro t ht
  rcases mem_inside h.lead ht with htrivia | ⟨i, hi, hbody⟩
  · exact .sound htrivia.sound
  · exact (h i hi).body t hbody

theorem open_node_of {k : Kind} {is : List Item} (his : OpenAll is)
    (hk : (Tree.branch none k (inside is)).Open) : (node k is).Open := by
  cases is with
  | nil =>
      exact ⟨by simp [node], by simpa [node, inside] using hk⟩
  | cons i rest =>
      refine ⟨(his i List.mem_cons_self).lead, ?_⟩
      intro t ht
      rcases List.mem_singleton.mp ht with rfl
      exact hk

@[simp] theorem open_node {k : Kind} {is : List Item} (hk : k ∉ restricted)
    (his : SoundAll is) : (node k is).Open :=
  (sound_node hk his).isOpen

@[simp] theorem open_list {k : Kind} {is : List Item} (hk : k = .array ∨ k = .spreadElement)
    (his : OpenAll is) : (node k is).Open :=
  open_node_of his (.list hk his.inside)

@[simp] theorem open_object {is : List Item} (his : OpenAll is) (hentry : ∀ i ∈ is, i.IsEntry) :
    (node .object is).Open := by
  refine open_node_of his (.object ?_ his.inside)
  intro t ht
  rcases mem_inside his.lead ht with htrivia | ⟨i, hi, hbody⟩
  · exact Or.inl htrivia.isEntry
  · exact hentry i hi t hbody

@[simp] theorem isEntry_node {k : Kind} {is : List Item}
    (hk : k ∈ Tree.entryKinds ∨ k = .objectAssignmentPattern) : (node k is).IsEntry := by
  have htree : ∀ cs, (Tree.branch none k cs).IsEntry ∨ (Tree.branch none k cs).IsDefault := by
    intro cs
    rcases hk with hk | rfl
    · exact Or.inl (by simpa [Tree.IsEntry, Tree.kind?] using hk)
    · exact Or.inr trivial
  cases is <;> simp [IsEntry, node, htree]

@[simp] theorem IsToken.isEntry {i : Item} (h : i.IsToken) : i.IsEntry := by
  rcases h with ⟨_, t, hbody⟩
  simp [IsEntry, hbody, Tree.IsEntry, Tree.kind?]

theorem isEntry_recast {i : Item} (h : i.Sound) (hkind : i.isAny [.propertyIdentifier] = true) :
    (i.recast .shorthandPropertyIdentifier).IsEntry := by
  intro t ht
  rcases List.mem_map.mp ht with ⟨u, hu, rfl⟩
  left
  have hsound := h.body u hu
  have hk : u.kind? = some .propertyIdentifier := by
    unfold isAny Item.kind? at hkind
    split at hkind
    · rename_i k hk
      split at hk
      · rename_i v hbody
        rw [hbody] at hu
        rcases List.mem_singleton.mp hu with rfl
        simpa [hk] using hkind
      · cases hk
    · cases hkind
  cases u with
  | leaf =>
      simp [Tree.IsEntry, Tree.kind?]
  | branch =>
      obtain rfl : _ = Kind.propertyIdentifier := Option.some.inj hk
      cases hsound with
      | branch hbranch _ =>
          cases hbranch
  | gap =>
      cases hk
  | token =>
      cases hk
  | missing =>
      cases hk

theorem Open.sound {i : Item} (h : i.Open) (hfits : i.isPatternOnly = false) : i.Sound := by
  refine ⟨h.lead, ?_⟩
  intro t ht
  apply sound_of_open (h.body t ht)
  rw [isPatternOnly, anyFitsPatternOnly_eq_any] at hfits
  exact Bool.eq_false_iff.mpr (List.any_eq_false.mp hfits t ht)

theorem Open.asPattern? {i j : Item} (h : i.Open) {p : Place} (hj : i.asPattern? p = some j) :
    j.Sound := by
  rcases Option.map_eq_some_iff.mp hj with ⟨body, hbody, rfl⟩
  exact ⟨h.lead, asPatternAll_sound (fun t ht => asPattern_sound_of_open (h.body t ht)) hbody⟩

theorem IsNode.asPattern? {i j : Item} (h : i.IsNode) {p : Place}
    (hj : i.asPattern? p = some j) : j.IsNode := by
  rcases Option.map_eq_some_iff.mp hj with ⟨body, hbody, rfl⟩
  rcases h with ⟨t, ht, hnamed⟩
  simp only [ht, asPatternAll, Option.bind_eq_bind, Option.bind_eq_some_iff] at hbody
  rcases hbody with ⟨u, hu, us, hus, heq⟩
  refine ⟨u, ?_, ?_⟩
  · rcases Option.some.inj hus with rfl
    exact (Option.some.inj heq).symm
  · rw [isNamed_of_asPattern hu]
    exact hnamed

end Item
end Parse
end ComponentDecl
