import ComponentDecl.Syntax.Cursor

/-!
# Nodes, children and parents

The nodes at and below a cursor, seen from the cursor: which of them it is the parent of,
and that these are its named children.  Cursors of one tree are told apart by their
addresses, and an address is longer the deeper a node lies.
-/

namespace ComponentDecl
namespace Cursor

/-- How many nodes lie above a cursor. -/
def depth (c : Cursor) : Nat :=
  c.address.length

@[simp] theorem depth_child (p : Cursor) (left : List Tree) (m : Mark) (t : Tree) :
    (child p left m t).depth = p.depth + 1 := rfl

/-!
# Depth

Every node of a row lies deeper than the parent of the row.
-/

mutual

theorem depth_nodesOf {c x : Cursor} {t : Tree} (hx : x ∈ nodesOf c t) :
    x = c ∨ c.depth < x.depth := by
  cases t with
  | gap text =>
      simp [nodesOf] at hx
  | token f text =>
      simp [nodesOf] at hx
  | leaf f k text =>
      simp only [nodesOf, List.mem_singleton] at hx
      exact Or.inl hx
  | branch f k cs =>
      simp only [nodesOf, List.mem_cons] at hx
      rcases hx with hx | hx
      · exact Or.inl hx
      · exact Or.inr (depth_nodesOfRow hx)
  | missing f name =>
      simp [nodesOf] at hx

theorem depth_nodesOfRow {p x : Cursor} {left : List Tree} {m : Mark} {ts : List Tree}
    (hx : x ∈ nodesOfRow p left m ts) : p.depth < x.depth := by
  cases ts with
  | nil =>
      simp [nodesOfRow] at hx
  | cons t rest =>
      simp only [nodesOfRow, List.mem_append] at hx
      rcases hx with hx | hx
      · rcases depth_nodesOf hx with rfl | hlt
        · simp
        · rw [depth_child] at hlt
          omega
      · exact depth_nodesOfRow hx

end

/-!
# Children among the nodes
-/

theorem depth_of_isChildOf {x c : Cursor} (h : x.isChildOf c = true) :
    x.depth = c.depth + 1 := by
  cases x with
  | root t =>
      simp [isChildOf, parent?] at h
  | child p left m t =>
      simp only [isChildOf, parent?, isSame, beq_iff_eq] at h
      simp [depth, address, h]

theorem isChildOf_child (c : Cursor) (left : List Tree) (m : Mark) (t : Tree) :
    (child c left m t).isChildOf c = true := by
  simp [isChildOf, parent?, isSame]

theorem not_isChildOf_self (c : Cursor) : c.isChildOf c = false := by
  rw [Bool.eq_false_iff]
  intro h
  have := depth_of_isChildOf h
  omega

theorem depth_of_parent? {x c : Cursor} (h : x.parent? = some c) :
    x.depth = c.depth + 1 := by
  cases x with
  | root t =>
      simp [parent?] at h
  | child p left m t =>
      simp only [parent?, Option.some.injEq] at h
      rw [depth_child, h]

/-- The nodes of a piece other than itself are not children of its parent. -/
theorem eq_of_mem_nodesOf_child {c x : Cursor} {left : List Tree} {m : Mark} {t u : Tree}
    (hx : x ∈ nodesOf (child c left m t) u) (hd : x.depth = c.depth + 1) :
    x = child c left m t := by
  rcases depth_nodesOf hx with hx | hlt
  · exact hx
  · rw [depth_child] at hlt
    omega

theorem parent?_of_mem_nodesOfRow {c x : Cursor} {left : List Tree} {m : Mark}
    {ts : List Tree} (hx : x ∈ nodesOfRow c left m ts) (hd : x.depth = c.depth + 1) :
    x.parent? = some c := by
  induction ts generalizing left m with
  | nil =>
      simp [nodesOfRow] at hx
  | cons t rest ih =>
      simp only [nodesOfRow, List.mem_append] at hx
      rcases hx with hx | hx
      · rw [eq_of_mem_nodesOf_child hx hd]
        rfl
      · exact ih hx

/-- Among the nodes at and below a cursor, the children are those whose parent is the
cursor itself. -/
theorem isChildOf_iff_parent? {c x : Cursor} (hx : x ∈ c.nodes) :
    x.isChildOf c = true ↔ x.parent? = some c := by
  constructor
  · intro h
    have hd := depth_of_isChildOf h
    unfold nodes at hx
    cases ht : c.tree with
    | gap text =>
        simp [ht, nodesOf] at hx
    | token f text =>
        simp [ht, nodesOf] at hx
    | missing f name =>
        simp [ht, nodesOf] at hx
    | leaf f k text =>
        simp only [ht, nodesOf, List.mem_singleton] at hx
        subst hx
        omega
    | branch f k cs =>
        simp only [ht, nodesOf, List.mem_cons] at hx
        rcases hx with rfl | hx
        · omega
        · exact parent?_of_mem_nodesOfRow hx hd
  · intro h
    simp [isChildOf, h, isSame]

/-!
# Named children

The children of a cursor among its nodes, in order, are its named children.
-/

theorem filter_nodesOf_child (c : Cursor) (left : List Tree) (m : Mark) (t : Tree) :
    (nodesOf (child c left m t) t).filter (·.isChildOf c) =
      if t.isNamed then [child c left m t] else [] := by
  have hbelow : ∀ cs, (nodesOfRow (child c left m t) [] m cs).filter (·.isChildOf c) = [] := by
    intro cs
    rw [List.filter_eq_nil_iff]
    intro x hx h
    have h₁ := depth_nodesOfRow hx
    have h₂ := depth_of_isChildOf h
    rw [depth_child] at h₁
    omega
  cases t with
  | gap text =>
      simp [nodesOf, Tree.isNamed, Tree.kind?]
  | token f text =>
      simp [nodesOf, Tree.isNamed, Tree.kind?]
  | missing f name =>
      simp [nodesOf, Tree.isNamed, Tree.kind?]
  | leaf f k text =>
      simp [nodesOf, Tree.isNamed, Tree.kind?, isChildOf_child]
  | branch f k cs =>
      simpa [nodesOf, Tree.isNamed, Tree.kind?, isChildOf_child, start] using hbelow cs

theorem filter_nodesOfRow (c : Cursor) (left : List Tree) (m : Mark) (ts : List Tree) :
    (nodesOfRow c left m ts).filter (·.isChildOf c) =
      (row c left m ts).filter fun d => d.tree.isNamed := by
  induction ts generalizing left m with
  | nil =>
      rfl
  | cons t rest ih =>
      rw [nodesOfRow, List.filter_append, filter_nodesOf_child, ih, row, List.filter_cons]
      by_cases ht : t.isNamed <;> simp [ht, tree]

theorem namedChildren_eq_filter_row (c : Cursor) :
    c.namedChildren = (row c [] c.start c.tree.children).filter fun d => d.tree.isNamed := by
  unfold namedChildren children
  rw [List.filter_filter]
  apply List.filter_congr
  intro d _
  cases hd : d.tree <;> simp [Tree.isNamed, Tree.kind?, Tree.isGap]

theorem filter_nodes_isChildOf (c : Cursor) :
    c.nodes.filter (·.isChildOf c) = c.namedChildren := by
  rw [namedChildren_eq_filter_row]
  unfold nodes
  cases ht : c.tree with
  | gap text =>
      simp [nodesOf, Tree.children, row]
  | token f text =>
      simp [nodesOf, Tree.children, row]
  | missing f name =>
      simp [nodesOf, Tree.children, row]
  | leaf f k text =>
      simp [nodesOf, Tree.children, row, not_isChildOf_self]
  | branch f k cs =>
      rw [nodesOf, List.filter_cons, if_neg (by simp [not_isChildOf_self]), filter_nodesOfRow]
      rfl

/-!
# Nodes from the children

The nodes at and below a named node are the node itself and the nodes of its named
children.
-/

theorem mem_children_of_mem_namedChildren {c d : Cursor} (h : d ∈ c.namedChildren) :
    d ∈ c.children :=
  (List.mem_filter.mp h).1

theorem tree_mem_of_mem_row {p d : Cursor} {left ts : List Tree} {m : Mark}
    (hd : d ∈ row p left m ts) : d.tree ∈ ts := by
  induction ts generalizing left m with
  | nil =>
      cases hd
  | cons t rest ih =>
      rcases List.mem_cons.mp hd with rfl | hd
      · exact List.mem_cons_self
      · exact List.mem_cons_of_mem t (ih hd)

theorem tree_mem_children {c d : Cursor} (h : d ∈ c.children) :
    d.tree ∈ c.tree.children :=
  tree_mem_of_mem_row (List.mem_filter.mp h).1

theorem nodesOfRow_eq_flatMap (c : Cursor) (left : List Tree) (m : Mark) (ts : List Tree) :
    nodesOfRow c left m ts = (row c left m ts).flatMap nodes := by
  induction ts generalizing left m with
  | nil =>
      rfl
  | cons t rest ih =>
      rw [nodesOfRow, row, List.flatMap_cons, ih]
      rfl

theorem nodes_eq_nil_of_not_isNamed {c : Cursor} (h : c.tree.isNamed = false) :
    c.nodes = [] := by
  unfold nodes
  cases ht : c.tree with
  | gap t =>
      rfl
  | token f t =>
      rfl
  | missing f n =>
      rfl
  | leaf f k t =>
      rw [ht] at h
      cases h
  | branch f k cs =>
      rw [ht] at h
      cases h

theorem flatMap_nodes_filter_isNamed (cs : List Cursor) :
    (cs.filter fun d => d.tree.isNamed).flatMap nodes = cs.flatMap nodes := by
  induction cs with
  | nil =>
      rfl
  | cons c cs ih =>
      rw [List.filter_cons, List.flatMap_cons]
      split
      · rw [List.flatMap_cons, ih]
      · rename_i hnamed
        rw [nodes_eq_nil_of_not_isNamed (by simpa using hnamed), ih]
        rfl

theorem nodes_of_isNamed {c : Cursor} (h : c.tree.isNamed = true) :
    c.nodes = c :: c.namedChildren.flatMap nodes := by
  rw [namedChildren_eq_filter_row, flatMap_nodes_filter_isNamed, ← nodesOfRow_eq_flatMap]
  unfold nodes
  cases ht : c.tree with
  | leaf f k t =>
      rfl
  | branch f k cs =>
      rfl
  | gap t =>
      rw [ht] at h
      cases h
  | token f t =>
      rw [ht] at h
      cases h
  | missing f n =>
      rw [ht] at h
      cases h

theorem parent?_of_mem_row {c d : Cursor} {left ts : List Tree} {m : Mark}
    (h : d ∈ row c left m ts) : d.parent? = some c := by
  induction ts generalizing left m with
  | nil =>
      cases h
  | cons t rest ih =>
      rcases List.mem_cons.mp h with rfl | h
      · rfl
      · exact ih h

theorem parent?_of_mem_children {c d : Cursor} (h : d ∈ c.children) : d.parent? = some c :=
  parent?_of_mem_row (List.mem_filter.mp h).1

theorem parent?_of_mem_namedChildren {e d : Cursor} (h : d ∈ e.namedChildren) :
    d.parent? = some e :=
  parent?_of_mem_children (mem_children_of_mem_namedChildren h)

end Cursor
end ComponentDecl
