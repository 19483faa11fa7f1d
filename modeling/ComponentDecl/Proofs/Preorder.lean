import ComponentDecl.Proofs.Navigation
import ComponentDecl.Proofs.Walk
import Mathlib.Data.List.Flatten
import Mathlib.Data.List.Perm.Basic
import Mathlib.Logic.Relation

/-!
# Walks in pre-order

A walk meets each named node of a tree once, a node before what lies under it and all of an
earlier sibling before a later one, and hands it to the handler that was registered last for
its kind.  Which nodes lie under a cursor is said here by going from child to child, without
the walk and its list of nodes.
-/

namespace ComponentDecl
namespace Cursor

/-- What is reached from a cursor by going down to children, tokens included. -/
def Within (c x : Cursor) : Prop :=
  Relation.ReflTransGen (fun p d => d ∈ p.children) c x

/-- What is reached from a cursor by going down at least once. -/
def Under (c x : Cursor) : Prop :=
  Relation.TransGen (fun p d => d ∈ p.children) c x

/-- A list of the named nodes at and under a cursor in pre-order.  That one node comes before
another is said by a list of the two inside the list. -/
structure IsPreorder (c : Cursor) (xs : List Cursor) : Prop where
  mem_iff : ∀ x, x ∈ xs ↔ Within c x ∧ x.tree.isNamed = true
  once : xs.Pairwise fun x y => x.isSame y = false
  first : c.tree.isNamed = true → xs.head? = some c
  downward : ∀ x y, x ∈ xs → Under x y → y.tree.isNamed = true → [x, y].Sublist xs
  rightward : ∀ p a b x y, Within c p → [a, b].Sublist p.children →
    Within a x → x.tree.isNamed = true → Within b y → y.tree.isNamed = true →
      [x, y].Sublist xs

/-!
# Going down
-/

theorem isNamed_of_mem_children {c d : Cursor} (h : d ∈ c.children) :
    c.tree.isNamed = true := by
  have hd := tree_mem_children h
  cases hc : c.tree with
  | branch f k cs =>
      rfl
  | leaf f k t =>
      rfl
  | gap t =>
      rw [hc] at hd
      cases hd
  | token f t =>
      rw [hc] at hd
      cases hd
  | missing f n =>
      rw [hc] at hd
      cases hd

theorem sizeOf_lt_of_mem_children {c d : Cursor} (h : d ∈ c.children) :
    sizeOf d.tree < sizeOf c.tree := by
  have hd := tree_mem_children h
  cases hc : c.tree with
  | branch f k cs =>
      rw [hc] at hd
      have hlt := List.sizeOf_lt_of_mem hd
      simp only [Tree.children, Tree.branch.sizeOf_spec] at hlt ⊢
      omega
  | leaf f k t =>
      rw [hc] at hd
      cases hd
  | gap t =>
      rw [hc] at hd
      cases hd
  | token f t =>
      rw [hc] at hd
      cases hd
  | missing f n =>
      rw [hc] at hd
      cases hd

/-- What holds of a cursor whenever it holds of its children holds of every cursor. -/
theorem children_induction {motive : Cursor → Prop}
    (step : ∀ c, (∀ d ∈ c.children, motive d) → motive c) (c : Cursor) : motive c := by
  apply step
  intro d hd
  exact children_induction step d
termination_by sizeOf c.tree
decreasing_by exact sizeOf_lt_of_mem_children hd

theorem nodes_eq_flatMap_children {c : Cursor} (h : c.tree.isNamed = true) :
    c.nodes = c :: c.children.flatMap nodes := by
  rw [nodes_of_isNamed h, namedChildren, flatMap_nodes_filter_isNamed]

theorem mem_nodes_self {c : Cursor} (h : c.tree.isNamed = true) : c ∈ c.nodes := by
  rw [nodes_eq_flatMap_children h]
  exact List.mem_cons_self

theorem nodes_infix_of_mem_children {c d : Cursor} (h : d ∈ c.children) :
    d.nodes <:+: c.nodes := by
  rw [nodes_eq_flatMap_children (isNamed_of_mem_children h)]
  have hflat : d.nodes <:+: c.children.flatMap nodes :=
    List.infix_of_mem_flatten (List.mem_map_of_mem h)
  exact hflat.trans (List.suffix_cons c _).isInfix

theorem Within.nodes_infix {c x : Cursor} (h : Within c x) : x.nodes <:+: c.nodes := by
  induction h with
  | refl =>
      exact List.infix_rfl
  | tail _ hd ih =>
      exact (nodes_infix_of_mem_children hd).trans ih

/-- The nodes at and below a cursor are the named ones among what is reached from it. -/
theorem mem_nodes_iff_within {c x : Cursor} :
    x ∈ c.nodes ↔ Within c x ∧ x.tree.isNamed = true := by
  constructor
  · intro hx
    induction c using children_induction with
    | step c ih =>
        cases hc : c.tree.isNamed with
        | false =>
            rw [nodes_eq_nil_of_not_isNamed hc] at hx
            cases hx
        | true =>
            rw [nodes_eq_flatMap_children hc] at hx
            rcases List.mem_cons.mp hx with rfl | hx
            · exact ⟨Relation.ReflTransGen.refl, hc⟩
            · rcases List.mem_flatMap.mp hx with ⟨d, hd, hx⟩
              rcases ih d hd hx with ⟨hwithin, hnamed⟩
              exact ⟨Relation.ReflTransGen.head hd hwithin, hnamed⟩
  · rintro ⟨hwithin, hnamed⟩
    exact hwithin.nodes_infix.subset (mem_nodes_self hnamed)

/-!
# Addresses

A child's address is its number in front of the address of its parent, so an address ends
with the addresses of all pieces above.  Pieces under different children never share one.
-/

theorem pairwise_address_row (p : Cursor) (left : List Tree) (m : Mark) (ts : List Tree) :
    (∀ d ∈ row p left m ts, ∃ i, left.length ≤ i ∧ d.address = i :: p.address) ∧
      (row p left m ts).Pairwise fun a b =>
        ∃ i j, i < j ∧ a.address = i :: p.address ∧ b.address = j :: p.address := by
  induction ts generalizing left m with
  | nil =>
      exact ⟨by simp [row], List.Pairwise.nil⟩
  | cons t rest ih =>
      rcases ih (t :: left) (m.after t.text) with ⟨hnumber, hpairs⟩
      constructor
      · intro d hd
        rcases List.mem_cons.mp hd with rfl | hd
        · exact ⟨left.length, Nat.le_refl _, rfl⟩
        · rcases hnumber d hd with ⟨i, hi, haddress⟩
          rw [List.length_cons] at hi
          exact ⟨i, by omega, haddress⟩
      · apply List.Pairwise.cons _ hpairs
        intro d hd
        rcases hnumber d hd with ⟨j, hj, haddress⟩
        rw [List.length_cons] at hj
        exact ⟨left.length, j, by omega, rfl, haddress⟩

theorem exists_address_of_mem_children {c d : Cursor} (h : d ∈ c.children) :
    ∃ i, d.address = i :: c.address := by
  have hrow := (List.mem_filter.mp h).1
  rcases (pairwise_address_row c [] c.start c.tree.children).1 d hrow with ⟨i, _, haddress⟩
  exact ⟨i, haddress⟩

theorem Within.address_suffix {c x : Cursor} (h : Within c x) : c.address <:+ x.address := by
  induction h with
  | refl =>
      exact List.suffix_rfl
  | tail _ hd ih =>
      rcases exists_address_of_mem_children hd with ⟨i, haddress⟩
      rw [haddress]
      exact ih.trans (List.suffix_cons i _)

theorem not_isSame_of_within {a b c x y : Cursor} {i j : Nat} (hij : i < j)
    (ha : a.address = i :: c.address) (hb : b.address = j :: c.address) (hx : Within a x)
    (hy : Within b y) : x.isSame y = false := by
  rw [isSame, beq_eq_false_iff_ne]
  intro heq
  have hxs : i :: c.address <:+ y.address := by
    rw [← heq, ← ha]
    exact hx.address_suffix
  have hys : j :: c.address <:+ y.address := by
    rw [← hb]
    exact hy.address_suffix
  -- suffixes of one address that are equally long are equal
  have hsuffix := List.suffix_of_suffix_length_le hxs hys (by simp)
  have hcons := hsuffix.eq_of_length (by simp)
  rw [List.cons.injEq] at hcons
  omega

theorem not_isSame_of_under {c x : Cursor} (h : Under c x) : c.isSame x = false := by
  rcases Relation.TransGen.head'_iff.mp h with ⟨d, hd, hx⟩
  rcases exists_address_of_mem_children hd with ⟨i, haddress⟩
  have hlength := (Within.address_suffix hx).length_le
  rw [haddress, List.length_cons] at hlength
  rw [isSame, beq_eq_false_iff_ne]
  intro heq
  rw [heq] at hlength
  omega

theorem under_of_mem_flatMap {c x : Cursor} (h : x ∈ c.children.flatMap nodes) : Under c x := by
  rcases List.mem_flatMap.mp h with ⟨d, hd, hx⟩
  exact Relation.TransGen.head'_iff.mpr ⟨d, hd, (mem_nodes_iff_within.mp hx).1⟩

theorem nodes_pairwise_not_isSame (c : Cursor) :
    c.nodes.Pairwise fun x y => x.isSame y = false := by
  induction c using children_induction with
  | step c ih =>
      cases hc : c.tree.isNamed with
      | false =>
          rw [nodes_eq_nil_of_not_isNamed hc]
          exact List.Pairwise.nil
      | true =>
          rw [nodes_eq_flatMap_children hc]
          apply List.Pairwise.cons
          · intro x hx
            exact not_isSame_of_under (under_of_mem_flatMap hx)
          · apply List.pairwise_flatMap.mpr
            refine ⟨ih, ?_⟩
            -- nodes under different children differ in the number of the child
            have hpairs :=
              ((pairwise_address_row c [] c.start c.tree.children).2).filter fun d =>
                !d.tree.isGap
            apply List.Pairwise.imp _ hpairs
            rintro a b ⟨i, j, hij, ha, hb⟩ x hx y hy
            exact not_isSame_of_within hij ha hb (mem_nodes_iff_within.mp hx).1
              (mem_nodes_iff_within.mp hy).1

/-!
# Order
-/

theorem sublist_nodes_of_under {c x y : Cursor} (hx : x ∈ c.nodes) (hy : Under x y)
    (hnamed : y.tree.isNamed = true) : [x, y].Sublist c.nodes := by
  rcases mem_nodes_iff_within.mp hx with ⟨hwithin, hxnamed⟩
  rcases Relation.TransGen.head'_iff.mp hy with ⟨d, hd, hdy⟩
  have hmem : y ∈ x.children.flatMap nodes :=
    List.mem_flatMap.mpr ⟨d, hd, mem_nodes_iff_within.mpr ⟨hdy, hnamed⟩⟩
  have hsub : [x, y].Sublist x.nodes := by
    rw [nodes_eq_flatMap_children hxnamed]
    exact (List.singleton_sublist.mpr hmem).cons_cons x
  exact hsub.trans hwithin.nodes_infix.sublist

theorem sublist_nodes_of_siblings {c p a b x y : Cursor} (hp : Within c p)
    (hab : [a, b].Sublist p.children) (hx : x ∈ a.nodes) (hy : y ∈ b.nodes) :
    [x, y].Sublist c.nodes := by
  have ha : a ∈ p.children := hab.subset List.mem_cons_self
  have hpair : [x, y].Sublist (a.nodes ++ b.nodes) :=
    (List.singleton_sublist.mpr hx).append (List.singleton_sublist.mpr hy)
  have hchildren : (a.nodes ++ b.nodes).Sublist (p.children.flatMap nodes) := by
    simpa using hab.flatMap nodes
  have hnodes : (p.children.flatMap nodes).Sublist p.nodes := by
    rw [nodes_eq_flatMap_children (isNamed_of_mem_children ha)]
    exact List.sublist_cons_self p _
  exact ((hpair.trans hchildren).trans hnodes).trans hp.nodes_infix.sublist

theorem isPreorder_nodes (c : Cursor) : IsPreorder c c.nodes where
  mem_iff x := mem_nodes_iff_within
  once := nodes_pairwise_not_isSame c
  first h := by
    rw [nodes_eq_flatMap_children h]
    rfl
  downward x y hx hy hnamed := sublist_nodes_of_under hx hy hnamed
  rightward p a b x y hp hab hx hxnamed hy hynamed :=
    sublist_nodes_of_siblings hp hab (mem_nodes_iff_within.mpr ⟨hx, hxnamed⟩)
      (mem_nodes_iff_within.mpr ⟨hy, hynamed⟩)

end Cursor

/-!
# Registrations
-/

namespace Handlers

variable {σ : Type}

/-- The handler that was registered last for the kind of that name. -/
def lastFor (kind : Text) (registrations : List (Text × Handler σ)) : Option (Handler σ) :=
  (registrations.filter fun r => r.1 == kind).getLast?.map Prod.snd

/-- What is done with a node: the handler registered last for its kind sees it, and if there
is none, the state stays. -/
def visit (registrations : List (Text × Handler σ)) (c : Cursor) (s : σ) : Logged σ :=
  match c.kind? with
  | none => pure s
  | some k =>
      match lastFor k.spelling registrations with
      | none => pure s
      | some h => do
          Logged.tell (.handling k.spelling c.span.start)
          h c s

theorem table_ofList (registrations : List (Text × Handler σ)) :
    (ofList registrations).table = registrations.reverse := by
  have hfold : ∀ (rs : List (Text × Handler σ)) (hs : Handlers σ),
      (rs.foldl (fun all h => all.on h.1 h.2) hs).table = rs.reverse ++ hs.table := by
    intro rs
    induction rs with
    | nil =>
        intro hs
        rfl
    | cons r rest ih =>
        intro hs
        rw [List.foldl_cons, ih, List.reverse_cons, List.append_assoc]
        rfl
  rw [ofList, hfold, empty, List.append_nil]

theorem handler?_ofList (kind : Text) (registrations : List (Text × Handler σ)) :
    (ofList registrations).handler? kind = lastFor kind registrations := by
  rw [handler?, table_ofList, lastFor, List.getLast?_filter]

theorem dispatch_ofList (registrations : List (Text × Handler σ)) (c : Cursor) (s : σ) :
    (ofList registrations).dispatch c s = visit registrations c s := by
  unfold dispatch visit
  cases c.kind? with
  | none =>
      rfl
  | some k =>
      have hlast := handler?_ofList k.spelling registrations
      cases hl : lastFor k.spelling registrations with
      | none =>
          rw [hl] at hlast
          simp only [hlast, hl]
      | some h =>
          rw [hl] at hlast
          simp only [hlast, hl]

theorem walk_ofList (registrations : List (Text × Handler σ)) (c : Cursor) (s : σ) :
    walk (ofList registrations) c s =
      c.nodes.foldlM (fun s x => visit registrations x s) s := by
  rw [walk_eq_foldlM]
  congr 1
  funext s x
  exact dispatch_ofList registrations x s

theorem handles_ofList (kind : Text) (registrations : List (Text × Handler σ)) :
    (ofList registrations).handles kind = true ↔ kind ∈ registrations.map Prod.fst := by
  rw [handles, handler?, table_ofList, Option.isSome_map, List.find?_isSome, List.mem_map]
  constructor
  · rintro ⟨r, hr, hkind⟩
    exact ⟨r, List.mem_reverse.mp hr, eq_of_beq hkind⟩
  · rintro ⟨r, hr, rfl⟩
    exact ⟨r, List.mem_reverse.mpr hr, beq_self_eq_true r.1⟩

/-!
# Exchanging registrations

Only the order among registrations of one kind matters.
-/

theorem lastFor_exchange (before : List (Text × Handler σ))
    {between : List (Text × Handler σ)} (after : List (Text × Handler σ))
    {a b : Text × Handler σ} (hab : a.1 ≠ b.1)
    (hbetween : ∀ r ∈ between, r.1 ≠ a.1 ∧ r.1 ≠ b.1) (kind : Text) :
    lastFor kind (before ++ b :: between ++ a :: after) =
      lastFor kind (before ++ a :: between ++ b :: after) := by
  -- between the two there is nothing of either kind
  have hnone : kind = a.1 ∨ kind = b.1 → between.filter (fun r => r.1 == kind) = [] := by
    intro hkind
    rw [List.filter_eq_nil_iff]
    intro r hr hrkind
    rcases hkind with rfl | rfl
    · exact (hbetween r hr).1 (eq_of_beq hrkind)
    · exact (hbetween r hr).2 (eq_of_beq hrkind)
  unfold lastFor
  by_cases ha : a.1 = kind
  · have hb : b.1 ≠ kind := by
      rw [← ha]
      exact hab.symm
    simp [ha, hb, hnone (Or.inl ha.symm)]
  · by_cases hb : b.1 = kind
    · simp [ha, hb, hnone (Or.inr hb.symm)]
    · simp [ha, hb]

theorem upTo_cons (a b : Char) (s t : Text) :
    upTo (a :: s) (b :: t) = true ↔ a.toNat < b.toNat ∨ a = b ∧ upTo s t = true := by
  simp only [upTo, Bool.or_eq_true, decide_eq_true_eq, Bool.and_eq_true, beq_iff_eq]

theorem upTo_total (s t : Text) : upTo s t = true ∨ upTo t s = true := by
  fun_induction upTo s t with
  | case1 t =>
      exact Or.inl rfl
  | case2 a s =>
      exact Or.inr rfl
  | case3 a s b t ih =>
      have hab := Nat.lt_trichotomy a.toNat b.toNat
      grind [upTo_cons, Char.toNat_inj]

theorem upTo_antisymm {s t : Text} (hst : upTo s t = true) (hts : upTo t s = true) :
    s = t := by
  fun_induction upTo s t with
  | case1 t =>
      cases t with
      | nil =>
          rfl
      | cons b t =>
          cases hts
  | case2 a s =>
      cases hst
  | case3 a s b t ih =>
      grind [upTo_cons]

theorem upTo_trans {s t u : Text} (hst : upTo s t = true) (htu : upTo t u = true) :
    upTo s u = true := by
  fun_induction upTo s t generalizing u with
  | case1 t =>
      rfl
  | case2 a s =>
      cases hst
  | case3 a s b t ih =>
      cases u with
      | nil =>
          cases htu
      | cons c u =>
          grind [upTo_cons]

/-- In which order names are put into place does not matter. -/
theorem place_comm (s t : Text) (names : List Text) :
    place s (place t names) = place t (place s names) := by
  have htotal := upTo_total s t
  by_cases hst : s = t
  · rw [hst]
  · induction names with
    | nil =>
        grind [place, upTo_antisymm]
    | cons u rest ih =>
        grind [place, upTo_antisymm, upTo_total, upTo_trans]

instance : LeftCommutative (fun (h : Text × Handler σ) names => place h.1 names) where
  left_comm a b names := place_comm a.1 b.1 names

theorem shown_eq_of_perm {hs gs : Handlers σ} (h : hs.table.Perm gs.table) :
    hs.shown = gs.shown := by
  have hkinds : hs.kinds = gs.kinds := h.foldr_eq []
  unfold shown
  rw [hkinds]

/-- Handlers that no use tells apart. -/
structure Agree (hs gs : Handlers σ) : Prop where
  walk : ∀ c s, walk hs c s = walk gs c s
  handles : ∀ kind, hs.handles kind = gs.handles kind
  shown : hs.shown = gs.shown

theorem perm_exchange {α : Type} (before between after : List α) (a b : α) :
    (before ++ b :: between ++ a :: after).Perm (before ++ a :: between ++ b :: after) := by
  rw [List.append_assoc, List.append_assoc]
  apply List.Perm.append_left before
  have hfirst : (b :: (between ++ a :: after)).Perm (b :: a :: (between ++ after)) :=
    List.perm_middle.cons b
  have hlast : (a :: b :: (between ++ after)).Perm (a :: (between ++ b :: after)) :=
    List.perm_middle.symm.cons a
  exact (hfirst.trans (List.Perm.swap a b _)).trans hlast

theorem agree_exchange {before between after : List (Text × Handler σ)}
    {a b : Text × Handler σ} (hab : a.1 ≠ b.1)
    (hbetween : ∀ r ∈ between, r.1 ≠ a.1 ∧ r.1 ≠ b.1) :
    Agree (ofList (before ++ b :: between ++ a :: after))
      (ofList (before ++ a :: between ++ b :: after)) := by
  have hlast := lastFor_exchange before after hab hbetween
  have hperm := perm_exchange before between after a b
  constructor
  · intro c s
    simp only [walk_ofList, visit, hlast]
  · intro kind
    rw [handles, handles, handler?_ofList, handler?_ofList, hlast]
  · apply shown_eq_of_perm
    rw [table_ofList, table_ofList]
    exact ((List.reverse_perm _).trans hperm).trans (List.reverse_perm _).symm

end Handlers

/-- A walk is the fold over the named nodes in pre-order, in which each node goes to the
handler registered last for its kind.  Registrations of different kinds may change places. -/
theorem walk_folds_over_preorder {σ : Type} (registrations : List (Text × Handler σ))
    (c : Cursor) (s : σ) :
    walk (Handlers.ofList registrations) c s =
        c.nodes.foldlM (fun s x => Handlers.visit registrations x s) s ∧
      c.IsPreorder c.nodes ∧
      (∀ kind, (Handlers.ofList registrations).handles kind = true ↔
        kind ∈ registrations.map Prod.fst) ∧
      ∀ before between after a b, registrations = before ++ a :: between ++ b :: after →
        a.1 ≠ b.1 → (∀ r ∈ between, r.1 ≠ a.1 ∧ r.1 ≠ b.1) →
          (Handlers.ofList (before ++ b :: between ++ a :: after)).Agree
            (Handlers.ofList registrations) := by
  refine ⟨Handlers.walk_ofList registrations c s, Cursor.isPreorder_nodes c, ?_, ?_⟩
  · intro kind
    exact Handlers.handles_ofList kind registrations
  · rintro before between after a b rfl hab hbetween
    exact Handlers.agree_exchange hab hbetween

end ComponentDecl
