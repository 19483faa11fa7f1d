import ComponentDecl.Proofs.Parse.Takes.Module
import ComponentDecl.Proofs.Preorder
import ComponentDecl.Proofs.Quoted
import ComponentDecl.Proofs.Selection
import Mathlib.Data.List.Induction
import Mathlib.Data.List.TakeWhile

/-!
# Nodes as slices of the source

A tree holds no positions: where a piece stands follows from the texts before it.  Here the
spans that cursors compute are compared with the source itself, cut at byte offsets.  The
invariant is that the text of a piece stands in the source behind the text that its start
mark has passed; every step down to a child keeps it.  At the root it holds because the
parser takes from the source exactly the text of the tree.
-/

namespace ComponentDecl

/-!
# Cutting at byte offsets
-/

namespace Text

/-- A text cut behind its first `n` bytes, if a character ends there. -/
def cut? : Nat → Text → Option (Text × Text)
  | 0, t => some ([], t)
  | _ + 1, [] => none
  | n + 1, c :: rest =>
      if c.utf8Size ≤ n + 1 then
        (cut? (n + 1 - c.utf8Size) rest).map fun p => (c :: p.1, p.2)
      else none

/-- The stretch of a text between two byte offsets, if both stand between characters. -/
def slice? (t : Text) (start stop : Nat) : Option Text := do
  if start ≤ stop then
    let (_, rest) ← cut? start t
    let (stretch, _) ← cut? (stop - start) rest
    return stretch
  else none

/-- What follows the last line feed of a text. -/
def lastLine (t : Text) : Text :=
  (t.reverse.takeWhile (· != '\n')).reverse

theorem cut?_eq_some {n : Nat} {t u v : Text} :
    cut? n t = some (u, v) ↔ t = u ++ v ∧ bytes u = n := by
  induction t generalizing n u with
  | nil =>
      cases n with
      | zero =>
          cases u <;> simp [cut?, eq_comm]
      | succ n =>
          cases u <;> simp [cut?]
  | cons c rest ih =>
      have hpos := Char.utf8Size_pos c
      cases n with
      | zero =>
          cases u with
          | nil =>
              simp [cut?, eq_comm]
          | cons d u =>
              have hd := Char.utf8Size_pos d
              simp only [cut?, bytes_cons, Option.some.injEq, Prod.mk.injEq, reduceCtorEq,
                false_and, false_iff, not_and]
              omega
      | succ n =>
          unfold cut?
          split
          · cases u with
            | nil =>
                simp
            | cons d u =>
                simp only [Option.map_eq_some_iff, Prod.exists, Prod.mk.injEq, List.cons.injEq,
                  List.cons_append, bytes_cons]
                constructor
                · intro h
                  rcases h with ⟨u', v', hcut, ⟨rfl, rfl⟩, rfl⟩
                  rcases ih.mp hcut with ⟨hrest, hbytes⟩
                  exact ⟨⟨rfl, hrest⟩, by omega⟩
                · intro h
                  rcases h with ⟨⟨rfl, hrest⟩, hbytes⟩
                  exact ⟨u, v, ih.mpr ⟨hrest, by omega⟩, ⟨rfl, rfl⟩, rfl⟩
          · cases u with
            | nil =>
                simp
            | cons d u =>
                simp only [List.cons_append, List.cons.injEq, bytes_cons, reduceCtorEq, false_iff]
                intro h
                rcases h with ⟨⟨rfl, _⟩, hbytes⟩
                omega

theorem slice?_eq_some {t s : Text} {start stop : Nat} :
    slice? t start stop = some s ↔
      ∃ u v, t = u ++ s ++ v ∧ bytes u = start ∧ bytes u + bytes s = stop := by
  unfold slice?
  constructor
  · intro h
    split at h
    · rcases Option.bind_eq_some_iff.mp h with ⟨⟨u, rest⟩, hu, h⟩
      rcases Option.bind_eq_some_iff.mp h with ⟨⟨s', v⟩, hs, h⟩
      rcases Option.some.inj h with rfl
      rcases cut?_eq_some.mp hu with ⟨rfl, hstart⟩
      rcases cut?_eq_some.mp hs with ⟨rfl, hlength⟩
      exact ⟨u, v, by simp, hstart, by omega⟩
    · cases h
  · intro h
    rcases h with ⟨u, v, rfl, hstart, hstop⟩
    have hu : cut? start (u ++ s ++ v) = some (u, s ++ v) :=
      cut?_eq_some.mpr ⟨List.append_assoc u s v, hstart⟩
    have hs : cut? (stop - start) (s ++ v) = some (s, v) :=
      cut?_eq_some.mpr ⟨rfl, by omega⟩
    rw [if_pos (by omega), hu]
    show (cut? (stop - start) (s ++ v)).bind _ = some s
    rw [hs]
    rfl

theorem lastLine_append_singleton (t : Text) (c : Char) :
    lastLine (t ++ [c]) = if c = '\n' then [] else lastLine t ++ [c] := by
  unfold lastLine
  by_cases hc : c = '\n' <;> simp [hc]

end Text

/-!
# Marks
-/

namespace Mark

/-- A mark counts the line feeds it has passed, and the bytes behind the last of them. -/
theorem after_origin (t : Text) :
    origin.after t = ⟨Text.bytes t, 1 + t.count '\n', 1 + Text.bytes (Text.lastLine t)⟩ := by
  induction t using List.reverseRecOn with
  | nil =>
      rfl
  | append_singleton t c ih =>
      rw [after_append, ih, Text.lastLine_append_singleton]
      show step _ c = _
      unfold step
      by_cases hc : c = '\n'
      · simp [hc, Nat.add_assoc]
      · simp [hc, Nat.add_assoc]

end Mark

/-!
# Rows
-/

namespace Tree

theorem textAll_leading_gaps (ts : List Tree) :
    textAll ts = textAll (ts.takeWhile isGap) ++ textAll (ts.dropWhile isGap) := by
  rw [← textAll_append, List.takeWhile_append_dropWhile]

end Tree

namespace Cursor

theorem text_eq (c : Cursor) : c.tree.text = c.tree.indent ++ c.text := by
  unfold text Tree.indent
  cases c.tree with
  | branch f k cs =>
      exact Tree.textAll_leading_gaps cs
  | _ =>
      simp [Tree.children, Tree.textAll]

theorem span_start (c : Cursor) : c.span.start = c.start.byte + Text.bytes c.tree.indent :=
  Mark.byte_after c.start c.tree.indent

theorem span_stop (c : Cursor) : c.span.stop = c.start.byte + Text.bytes c.tree.text := by
  rw [text_eq, Text.bytes_append, ← Nat.add_assoc, ← span_start]
  rfl

theorem row_append (p : Cursor) (left : List Tree) (m : Mark) (ts us : List Tree) :
    row p left m (ts ++ us) =
      row p left m ts ++ row p (ts.reverse ++ left) (m.after (Tree.textAll ts)) us := by
  induction ts generalizing left m with
  | nil =>
      rfl
  | cons t rest ih =>
      simp [row, ih, Tree.textAll, Mark.after_append]

theorem bounds_of_mem_row {p d : Cursor} {left ts : List Tree} {m : Mark}
    (h : d ∈ row p left m ts) :
    m.byte ≤ d.start.byte ∧
      d.start.byte + Text.bytes d.tree.text ≤ m.byte + Text.bytes (Tree.textAll ts) := by
  induction ts generalizing left m with
  | nil =>
      cases h
  | cons t rest ih =>
      rw [Tree.textAll, Text.bytes_append]
      rcases List.mem_cons.mp h with rfl | h
      · simp only [start, tree]
        omega
      · have hrest := ih h
        rw [Mark.byte_after] at hrest
        omega

theorem pairwise_row (p : Cursor) (left ts : List Tree) (m : Mark) :
    (row p left m ts).Pairwise fun a b => a.span.stop ≤ b.span.start := by
  induction ts generalizing left m with
  | nil =>
      exact List.Pairwise.nil
  | cons t rest ih =>
      apply List.Pairwise.cons _ (ih _ _)
      intro b hb
      have hbounds := bounds_of_mem_row hb
      rw [Mark.byte_after] at hbounds
      rw [span_stop, span_start]
      show m.byte + Text.bytes t.text ≤ _
      omega

/-- The children of a node are the pieces behind the white space in front of the first. -/
theorem children_eq_filter_shown (c : Cursor) :
    c.children =
      (row c (c.tree.children.takeWhile Tree.isGap).reverse (c.start.after c.tree.indent)
        (c.tree.children.dropWhile Tree.isGap)).filter fun d => !d.tree.isGap := by
  have hgaps : (row c [] c.start (c.tree.children.takeWhile Tree.isGap)).filter
      (fun d => !d.tree.isGap) = [] := by
    rw [List.filter_eq_nil_iff]
    intro d hd
    simp [List.mem_takeWhile_imp (tree_mem_of_mem_row hd)]
  unfold children
  conv_lhs =>
    rw [← List.takeWhile_append_dropWhile (p := Tree.isGap) (l := c.tree.children)]
  rw [row_append, List.filter_append, hgaps, List.append_nil]
  rfl

theorem nested_of_mem_children {c d : Cursor} (h : d ∈ c.children) :
    c.span.start ≤ d.span.start ∧ d.span.stop ≤ c.span.stop := by
  rw [children_eq_filter_shown] at h
  have hbounds := bounds_of_mem_row (List.mem_filter.mp h).1
  rw [Mark.byte_after, ← span_start] at hbounds
  have hstop : c.span.start + Text.bytes (Tree.textAll (c.tree.children.dropWhile Tree.isGap)) ≤
      c.span.stop := by
    show _ ≤ c.span.start + Text.bytes c.text
    unfold text
    cases c.tree <;> simp [Tree.children, Tree.textAll]
  rw [span_start d, span_stop d]
  omega

theorem pairwise_children (c : Cursor) :
    c.children.Pairwise fun a b => a.span.stop ≤ b.span.start :=
  (pairwise_row c [] c.tree.children c.start).filter _

/-!
# Siblings
-/

theorem row_eq_append_cons {p d : Cursor} {left ts : List Tree} {m : Mark} {xs ys : List Cursor}
    (h : row p left m ts = xs ++ d :: ys) :
    ∃ us t vs, ts = us ++ t :: vs ∧ xs = row p left m us ∧
      d = child p (us.reverse ++ left) (m.after (Tree.textAll us)) t := by
  induction xs generalizing left m ts with
  | nil =>
      cases ts with
      | nil =>
          cases h
      | cons t rest =>
          rcases List.cons.inj h with ⟨rfl, _⟩
          exact ⟨[], t, rest, rfl, rfl, rfl⟩
  | cons x xs ih =>
      cases ts with
      | nil =>
          cases h
      | cons t rest =>
          rcases List.cons.inj h with ⟨rfl, hrest⟩
          rcases ih hrest with ⟨us, u, vs, rfl, rfl, rfl⟩
          refine ⟨t :: us, u, vs, rfl, rfl, ?_⟩
          simp [Tree.textAll, Mark.after_append]

/-- The nearest named node to the left is the last named one of the row there. -/
theorem nearest_reverse (p : Cursor) (us : List Tree) :
    nearest p us.reverse = ((row p [] p.start us).filter fun d => d.tree.isNamed).getLast? := by
  induction us using List.reverseRecOn with
  | nil =>
      rfl
  | append_singleton us u ih =>
      rw [List.reverse_append, row_append, List.filter_append]
      show (if u.isNamed then _ else nearest p us.reverse) = _
      by_cases hu : u.isNamed
      · simp [hu, row, tree]
      · simp [hu, row, tree, ih]

theorem previous?_of_namedChildren {c d : Cursor} {xs ys : List Cursor}
    (h : c.namedChildren = xs ++ d :: ys) : d.previous? = xs.getLast? := by
  rw [namedChildren_eq_filter_row] at h
  rcases List.filter_eq_append_iff.mp h with ⟨before, rest, hrow, hxs, hrest⟩
  rcases List.filter_eq_cons_iff.mp hrest with ⟨between, ys', rfl, hbetween, _, _⟩
  rw [← List.append_assoc] at hrow
  rcases row_eq_append_cons hrow with ⟨us, t, vs, _, hus, rfl⟩
  show nearest c (us.reverse ++ []) = _
  rw [List.append_nil, nearest_reverse, ← hus, List.filter_append, hxs,
    List.filter_eq_nil_iff.mpr hbetween, List.append_nil]

/-!
# Cursors in a source
-/

/-- The text of the piece stands in the source behind what its start mark has passed. -/
def StandsIn (source : Text) (c : Cursor) : Prop :=
  ∃ before after, source = before ++ c.tree.text ++ after ∧ c.start = Mark.origin.after before

theorem standsIn_root (t : Tree) : StandsIn t.text (root t) :=
  ⟨[], [], by simp [tree], rfl⟩

theorem standsIn_of_mem_row {source before after : Text} {p d : Cursor} {left ts : List Tree}
    (h : source = before ++ Tree.textAll ts ++ after)
    (hd : d ∈ row p left (Mark.origin.after before) ts) : StandsIn source d := by
  induction ts generalizing before left with
  | nil =>
      cases hd
  | cons t rest ih =>
      rw [Tree.textAll] at h
      rcases List.mem_cons.mp hd with rfl | hd
      · exact ⟨before, Tree.textAll rest ++ after, by simp [h, tree], rfl⟩
      · rw [← Mark.after_append] at hd
        exact ih (by simp [h]) hd

theorem StandsIn.children {source : Text} {c d : Cursor} (h : StandsIn source c)
    (hd : d ∈ c.children) : StandsIn source d := by
  rcases h with ⟨before, after, hsource, hstart⟩
  have hrow := (List.mem_filter.mp hd).1
  rw [hstart] at hrow
  cases hc : c.tree with
  | branch f k cs =>
      rw [hc] at hsource hrow
      exact standsIn_of_mem_row hsource hrow
  | _ =>
      rw [hc] at hrow
      cases hrow

theorem StandsIn.within {source : Text} {c d : Cursor} (h : StandsIn source c)
    (hd : Within c d) : StandsIn source d := by
  induction hd with
  | refl =>
      exact h
  | tail _ hchild ih =>
      exact ih.children hchild

/-- The span of a piece is the place of its text in the source. -/
theorem StandsIn.split {source : Text} {c : Cursor} (h : StandsIn source c) :
    ∃ before after, source = before ++ c.text ++ after ∧
      c.span = ⟨Text.bytes before, Text.bytes before + Text.bytes c.text, 1 + before.count '\n',
        1 + Text.bytes (Text.lastLine before)⟩ := by
  rcases h with ⟨before, after, hsource, hstart⟩
  refine ⟨before ++ c.tree.indent, after, by simp [hsource, text_eq], ?_⟩
  show Span.ofText (c.start.after c.tree.indent) c.text = _
  rw [hstart, ← Mark.after_append, Mark.after_origin]
  rfl

/-- What the span of a piece says of the source, of its children and of their order. -/
structure Located (source : Text) (c : Cursor) : Prop where
  ordered : c.span.start ≤ c.span.stop
  inside : c.span.stop ≤ Text.bytes source
  slice : Text.slice? source c.span.start c.span.stop = some c.text
  position : ∃ before, Text.slice? source 0 c.span.start = some before ∧
    c.span.line = 1 + before.count '\n' ∧
      c.span.column = 1 + Text.bytes (Text.lastLine before)
  nested : ∀ d ∈ c.children, c.span.start ≤ d.span.start ∧ d.span.stop ≤ c.span.stop
  disjoint : c.children.Pairwise fun a b => a.span.stop ≤ b.span.start
  siblings : ∀ xs d ys, c.namedChildren = xs ++ d :: ys →
    d.parent? = some c ∧ d.previous? = xs.getLast?

theorem StandsIn.located {source : Text} {c : Cursor} (h : StandsIn source c) :
    Located source c := by
  rcases h.split with ⟨before, after, hsource, hspan⟩
  have hbytes : Text.bytes source =
      Text.bytes before + Text.bytes c.text + Text.bytes after := by
    simp [hsource, Nat.add_assoc]
  constructor
  case ordered =>
      simp [hspan]
  case inside =>
      rw [hspan, hbytes]
      exact Nat.le_add_right _ _
  case slice =>
      rw [hspan]
      exact Text.slice?_eq_some.mpr ⟨before, after, hsource, rfl, rfl⟩
  case position =>
      refine ⟨before, Text.slice?_eq_some.mpr ⟨[], c.text ++ after, ?_, rfl, ?_⟩, ?_⟩
      · simp [hsource]
      · simp [hspan]
      · simp [hspan]
  case nested =>
      intro d hd
      exact nested_of_mem_children hd
  case disjoint =>
      exact pairwise_children c
  case siblings =>
      intro xs d ys hsplit
      have hd : d ∈ c.namedChildren := by simp [hsplit]
      exact ⟨parent?_of_mem_namedChildren hd, previous?_of_namedChildren hsplit⟩

end Cursor

theorem Module.source_of_parse {source : Text} {m : Module} (hm : parse source = .ok m) :
    m.source = source := by
  unfold parse at hm
  split at hm
  · cases hm
  · rcases Except.ok.inj hm with rfl
    rfl

/-- Every piece of the tree of an accepted source is the slice of the source that its span
says. -/
theorem nodes_are_source_slices {source : Text} {m : Module} (hm : Module.parse source = .ok m)
    {c : Cursor} (hc : Cursor.Within m.root c) : m.source = source ∧ c.Located m.source := by
  have hroot : Cursor.StandsIn m.source m.root := by
    rw [← Module.text_tree hm]
    exact Cursor.standsIn_root m.tree
  exact ⟨Module.source_of_parse hm, (hroot.within hc).located⟩

/-- A source with characters of several bytes, comments between tokens and semicolons left
out. -/
def wideSource : Text :=
  "/* é */ let ü /* → */ = '𝄞'\n/** ∀ */ export default class Ä \x7b x = ü /* y */ \x7d"

theorem nodes_are_source_slices_wide :
    ∃ m c, Module.parse wideSource = .ok m ∧ Cursor.Within m.root c ∧
      c.isA .classBody = true ∧ m.source = wideSource ∧ c.Located m.source := by
  have hfound : (Module.parse wideSource).toOption.any
      (fun m => m.root.nodes.any (Cursor.isA .classBody)) = true := by
    decide +kernel
  rcases Module.exists_of_any hfound with ⟨m, hm, hany⟩
  rcases List.any_eq_true.mp hany with ⟨c, hc, hbody⟩
  have hwithin := (Cursor.mem_nodes_iff_within.mp hc).1
  exact ⟨m, c, hm, hwithin, hbody, nodes_are_source_slices hm hwithin⟩

end ComponentDecl
