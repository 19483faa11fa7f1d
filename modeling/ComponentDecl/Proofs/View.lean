import ComponentDecl.Proofs.Component
import ComponentDecl.Proofs.Preorder

/-!
# What is seen of a tree

Of a tree the kinds, the fields and the texts are seen, but neither positions nor the white
space between the pieces.  The names of a validator, the children of a piece and the comment
before it can be told from what is seen.
-/

namespace ComponentDecl

/-- What is seen of a piece of a tree, with the fields that its children fill. -/
inductive View where
  | token (text : Text)
  | node (kind : Kind) (text : Text) (children : List (Option Field × View))
  | missing (name : Text)

namespace View

def kind? : View → Option Kind
  | node k _ _ => some k
  | _ => none

def text : View → Text
  | token t => t
  | node _ t _ => t
  | missing _ => []

def children : View → List (Option Field × View)
  | node _ _ vs => vs
  | _ => []

mutual

/-- Whether the same is seen of two pieces. -/
def same : View → View → Bool
  | token s, token t => s == t
  | node j s vs, node k t ws => j == k && s == t && sameAll vs ws
  | missing m, missing n => m == n
  | _, _ => false

/-- Whether the same is seen of two rows. -/
def sameAll : List (Option Field × View) → List (Option Field × View) → Bool
  | [], [] => true
  | (f, v) :: vs, (g, w) :: ws => f == g && same v w && sameAll vs ws
  | _, _ => false

end

mutual

theorem same_iff (v w : View) : same v w = true ↔ v = w := by
  cases v with
  | token s =>
      cases w <;> simp [same]
  | missing n =>
      cases w <;> simp [same]
  | node k s vs =>
      cases w with
      | node j t ws =>
          simp only [same, Bool.and_eq_true, beq_iff_eq, sameAll_iff vs ws,
            node.injEq, and_assoc]
      | token t =>
          simp [same]
      | missing n =>
          simp [same]

theorem sameAll_iff (vs ws : List (Option Field × View)) :
    sameAll vs ws = true ↔ vs = ws := by
  cases vs with
  | nil =>
      cases ws <;> simp [sameAll]
  | cons v vs =>
      cases ws with
      | nil =>
          simp [sameAll]
      | cons w ws =>
          rcases v with ⟨f, v⟩
          rcases w with ⟨g, w⟩
          simp only [sameAll, Bool.and_eq_true, beq_iff_eq, same_iff v w,
            sameAll_iff vs ws, List.cons.injEq, Prod.mk.injEq]

end

instance : DecidableEq View :=
  fun v w => decidable_of_iff (same v w = true) (same_iff v w)

end View

namespace Tree

mutual

/-- What is seen of a tree.  White space is not seen. -/
def view? : Tree → Option View
  | gap _ => none
  | token _ t => some (.token t)
  | leaf _ k t => some (.node k t [])
  | branch _ k cs => some (.node k (textAll (cs.dropWhile isGap)) (views cs))
  | missing _ n => some (.missing n)

/-- What is seen of a row of trees, with their fields. -/
def views : List Tree → List (Option Field × View)
  | [] => []
  | t :: rest =>
      match view? t with
      | some v => (t.field, v) :: views rest
      | none => views rest

end

theorem isGap_eq (t : Tree) : t.isGap = t.view?.isNone := by
  cases t <;> rfl

theorem kind?_eq (t : Tree) : t.kind? = t.view?.bind View.kind? := by
  cases t <;> rfl

theorem views_children (t : Tree) : views t.children = (t.view?.map View.children).getD [] := by
  cases t <;> rfl

theorem views_cons_some {t : Tree} {v : View} (h : t.view? = some v) (rest : List Tree) :
    views (t :: rest) = (t.field, v) :: views rest := by
  rw [views, h]

theorem views_cons_none {t : Tree} (h : t.view? = none) (rest : List Tree) :
    views (t :: rest) = views rest := by
  rw [views, h]

end Tree

/-!
# Names of validators
-/

namespace View

/-- Whether a named node other than a comment is seen. -/
def isSubstance (v : View) : Bool :=
  v.kind?.isSome && v.kind? != some .comment

/-- The name of the member that a member expression takes. -/
def memberName? (vs : List (Option Field × View)) : Option Text :=
  match vs.find? fun v => v.1 == some .property with
  | some (_, node .propertyIdentifier t _) => some t
  | _ => none

mutual

/-- The names of a chain of members. -/
def names? : View → Option (List Text)
  | node .identifier t _ => some [t]
  | node .parenthesizedExpression _ vs => innerNames? vs
  | node .memberExpression _ vs => do
      let object ← objectNames? vs
      let property ← memberName? vs
      return object ++ [property]
  | _ => none

/-- The names of the expression inside a pair of parentheses. -/
def innerNames? : List (Option Field × View) → Option (List Text)
  | [] => none
  | (_, v) :: rest => if v.isSubstance then names? v else innerNames? rest

/-- The names of the object that a member is taken of. -/
def objectNames? : List (Option Field × View) → Option (List Text)
  | [] => none
  | (f, v) :: rest => if f == some .object then names? v else objectNames? rest

end

end View

namespace Tree

theorem isSubstance_eq {t : Tree} {v : View} (h : t.view? = some v) :
    t.isSubstance = v.isSubstance := by
  rw [isSubstance, isNamed, kind?_eq, h]
  rfl

theorem field_of_view?_none {t : Tree} (h : t.view? = none) : t.field = none := by
  cases t with
  | gap text =>
      rfl
  | _ =>
      cases h

theorem find?_views (ts : List Tree) (f : Field) :
    (views ts).find? (fun v => v.1 == some f) =
      (ts.find? fun t => t.field == some f).bind fun t => t.view?.map fun v => (t.field, v) := by
  induction ts with
  | nil =>
      rfl
  | cons t rest ih =>
      cases hv : t.view? with
      | none =>
          rw [views_cons_none hv, ih, List.find?_cons, field_of_view?_none hv]
          rfl
      | some v =>
          rw [views_cons_some hv, List.find?_cons, List.find?_cons]
          cases t.field == some f with
          | false =>
              exact ih
          | true =>
              simp [hv]

/-- The name of a member is seen, as plain names are leaves. -/
theorem memberName?_eq {ts : List Tree} (hts : ∀ t ∈ ts, t.Sound) :
    memberName? ts = View.memberName? (views ts) := by
  unfold memberName? View.memberName?
  rw [find?_views]
  cases hfind : ts.find? fun t => t.field == some .property with
  | none =>
      rfl
  | some t =>
      have hsound := hts t (List.mem_of_find?_eq_some hfind)
      cases t with
      | branch f k cs =>
          -- only the text of a leaf is its own, so this kind must not have children
          have hk : k ≠ .propertyIdentifier := by
            rintro rfl
            exact (sound_branch.mp hsound).1
          cases k <;> first | rfl | exact absurd rfl hk
      | leaf f k text =>
          cases k <;> rfl
      | _ =>
          rfl

mutual

theorem names?_eq {t : Tree} (h : t.Sound) : t.names? = t.view?.bind View.names? := by
  cases t with
  | gap text =>
      rfl
  | token f text =>
      rfl
  | missing f name =>
      rfl
  | leaf f k text =>
      cases k <;> rfl
  | branch f k cs =>
      rcases sound_branch.mp h with ⟨hbranch, hcs⟩
      have hinner := innerNames?_eq hcs
      have hobject := objectNames?_eq hcs
      have hmember := memberName?_eq hcs
      cases k with
      | identifier =>
          exact absurd hbranch id
      | parenthesizedExpression =>
          exact hinner
      | memberExpression =>
          rw [names?, hobject, hmember]
          rfl
      | _ =>
          rfl

theorem innerNames?_eq {ts : List Tree} (hts : ∀ t ∈ ts, t.Sound) :
    innerNames? ts = View.innerNames? (views ts) := by
  cases ts with
  | nil =>
      rfl
  | cons t rest =>
      have hrest := innerNames?_eq fun u hu => hts u (List.mem_cons_of_mem t hu)
      have ht := names?_eq (hts t List.mem_cons_self)
      cases hv : t.view? with
      | none =>
          have hgap : t.isSubstance = false := by
            rw [isSubstance, isNamed, kind?_eq, hv]
            rfl
          rw [views_cons_none hv, innerNames?, hgap, hrest]
          rfl
      | some v =>
          rw [hv] at ht
          rw [views_cons_some hv, innerNames?, View.innerNames?, isSubstance_eq hv, hrest, ht]
          rfl

theorem objectNames?_eq {ts : List Tree} (hts : ∀ t ∈ ts, t.Sound) :
    objectNames? ts = View.objectNames? (views ts) := by
  cases ts with
  | nil =>
      rfl
  | cons t rest =>
      have hrest := objectNames?_eq fun u hu => hts u (List.mem_cons_of_mem t hu)
      have ht := names?_eq (hts t List.mem_cons_self)
      cases hv : t.view? with
      | none =>
          rw [views_cons_none hv, objectNames?, field_of_view?_none hv, hrest]
          rfl
      | some v =>
          rw [hv] at ht
          rw [views_cons_some hv, objectNames?, View.objectNames?, hrest, ht]
          rfl

end

theorem declaredType_congr {t u : Tree} (ht : t.Sound) (hu : u.Sound)
    (h : t.view? = u.view?) (o : InferenceOptions) : t.declaredType o = u.declaredType o := by
  unfold declaredType propType
  rw [names?_eq ht, names?_eq hu, h]

end Tree

/-!
# What is seen from a cursor
-/

/-- What is seen of a row, each piece with its field and with what stands before it, the
nearest first. -/
def View.rowFrom (left : List (Option Field × View)) : List (Option Field × View) →
    List (List (Option Field × View) × Option Field × Option View)
  | [] => []
  | (f, v) :: rest => (left, f, some v) :: rowFrom ((f, v) :: left) rest

namespace Cursor

/-- The siblings before a piece, the nearest first. -/
def left : Cursor → List Tree
  | root _ => []
  | child _ l _ _ => l

/-- What is seen of a piece among its siblings: what stands before it, its field, and the
piece itself. -/
def glimpse (c : Cursor) : List (Option Field × View) × Option Field × Option View :=
  (Tree.views c.left, c.field, c.tree.view?)

/-- The kind and the text of a piece. -/
def outline (c : Cursor) : Option Kind × Text :=
  (c.kind?, c.text)

theorem outline_of_view {c : Cursor} {v : View} (h : c.tree.view? = some v) :
    c.outline = (v.kind?, v.text) := by
  unfold outline kind? text
  cases hc : c.tree with
  | gap t =>
      rw [hc] at h
      cases h
  | _ =>
      rw [hc] at h
      cases h
      rfl

theorem map_glimpse_row (p : Cursor) (l : List Tree) (m : Mark) (ts : List Tree) :
    ((row p l m ts).filter fun d => !d.tree.isGap).map glimpse =
      View.rowFrom (Tree.views l) (Tree.views ts) := by
  induction ts generalizing l m with
  | nil =>
      rfl
  | cons t rest ih =>
      have hgap : (child p l m t).tree.isGap = t.view?.isNone := Tree.isGap_eq t
      rw [row, List.filter_cons, hgap]
      cases hv : t.view? with
      | none =>
          rw [Tree.views_cons_none hv, ← Tree.views_cons_none hv l]
          exact ih (t :: l) (m.after t.text)
      | some v =>
          have hhead : (child p l m t).glimpse = (Tree.views l, t.field, some v) := by
            rw [← hv]
            rfl
          rw [Tree.views_cons_some hv, View.rowFrom, ← Tree.views_cons_some hv l,
            ← ih (t :: l) (m.after t.text), ← hhead]
          rfl

theorem map_glimpse_children (c : Cursor) :
    c.children.map glimpse =
      View.rowFrom [] ((c.tree.view?.map View.children).getD []) := by
  rw [← Tree.views_children]
  exact map_glimpse_row c [] c.start c.tree.children

/-- The named sibling before a piece is seen among what stands before it. -/
theorem previous?_outline (c : Cursor) :
    c.previous?.map outline =
      ((Tree.views c.left).find? fun v => v.2.kind?.isSome).map
        fun v => (v.2.kind?, v.2.text) := by
  cases c with
  | root t =>
      rfl
  | child p l m t =>
      show (nearest p l).map outline = _
      -- both sides look from the nearest sibling on for one that is named
      induction l with
      | nil =>
          rfl
      | cons u rest ih =>
          cases hv : u.view? with
          | none =>
              have hnamed : u.isNamed = false := by
                rw [Tree.isNamed, Tree.kind?_eq, hv]
                rfl
              rw [nearest, hnamed]
              show _ = ((Tree.views (u :: rest)).find? _).map _
              rw [Tree.views_cons_none hv]
              exact ih
          | some v =>
              have hnamed : u.isNamed = v.kind?.isSome := by
                rw [Tree.isNamed, Tree.kind?_eq, hv]
                rfl
              show _ = ((Tree.views (u :: rest)).find? _).map _
              rw [nearest, hnamed, Tree.views_cons_some hv, List.find?_cons]
              cases v.kind?.isSome with
              | false =>
                  exact ih
              | true =>
                  exact congrArg some (outline_of_view hv)

theorem doc?_eq (c : Cursor) :
    c.doc? = (c.previous?.map outline).bind fun k =>
      if k.1 == some .comment then docBody? k.2 else none := by
  unfold doc?
  cases c.previous? <;> rfl

end Cursor

end ComponentDecl
