import ComponentDecl.Proofs.Position

/-!
# The first mistake

The search for a mistake leaves out every branch without one and stops at the first mistake
it meets.  It finds what a search through all pieces of the tree, tokens included, finds
first, and what it reports says where that piece stands in the source and what is wrong
there.
-/

namespace ComponentDecl

/-!
# Mistakes
-/

namespace Tree

/-- The name of a node that the source lacks. -/
def missing? : Tree → Option Text
  | missing _ name => some name
  | _ => none

/-- Whether a node is of the kind of errors, which a missing node may be as well. -/
def isError : Tree → Bool
  | leaf _ k _ => k == .error
  | branch _ k _ => k == .error
  | missing _ name => name == Kind.error.spelling
  | _ => false

/-- Whether a node is neither missing nor an error. -/
def IsClean (t : Tree) : Prop :=
  t.missing? = none ∧ t.isError = false

theorem isClean_iff {t : Tree} : t.IsClean ↔ t.isMistake = false := by
  unfold IsClean
  cases t with
  | leaf f k text =>
      cases k <;> simp [missing?, isError, isMistake]
  | branch f k cs =>
      cases k <;> simp [missing?, isError, isMistake]
  | _ =>
      simp [missing?, isError, isMistake]

theorem hasMistakeAll_eq_any (ts : List Tree) : hasMistakeAll ts = ts.any hasMistake := by
  induction ts with
  | nil =>
      rfl
  | cons t rest ih =>
      rw [hasMistakeAll, ih, List.any_cons]

theorem hasMistake_eq (t : Tree) :
    t.hasMistake = (t.isMistake || t.children.any hasMistake) := by
  cases t with
  | branch f k cs =>
      rw [hasMistake, hasMistakeAll_eq_any]
      cases k <;> rfl
  | leaf f k text =>
      cases k <;> rfl
  | _ =>
      rfl

end Tree

/-!
# All pieces in pre-order
-/

namespace Cursor

/-- A piece and all pieces below it in pre-order, tokens and missing nodes included. -/
def pieces (c : Cursor) : List Cursor :=
  c :: c.children.attach.flatMap fun d => pieces d.1
termination_by sizeOf c.tree
decreasing_by exact sizeOf_lt_of_mem_children d.2

theorem pieces_eq (c : Cursor) : c.pieces = c :: c.children.flatMap pieces := by
  rw [pieces]
  simp

theorem mem_pieces {c x : Cursor} : x ∈ c.pieces ↔ Within c x := by
  constructor
  · intro hx
    induction c using children_induction with
    | step c ih =>
        rw [pieces_eq] at hx
        rcases List.mem_cons.mp hx with rfl | hx
        · exact Relation.ReflTransGen.refl
        · rcases List.mem_flatMap.mp hx with ⟨d, hd, hx⟩
          exact Relation.ReflTransGen.head hd (ih d hd hx)
  · intro hx
    induction hx using Relation.ReflTransGen.head_induction_on with
    | refl =>
        rw [pieces_eq]
        exact List.mem_cons_self
    | head hd _ ih =>
        rw [pieces_eq]
        exact List.mem_cons_of_mem _ (List.mem_flatMap.mpr ⟨_, hd, ih⟩)

theorem map_tree_row (p : Cursor) (left ts : List Tree) (m : Mark) :
    (row p left m ts).map tree = ts := by
  induction ts generalizing left m with
  | nil =>
      rfl
  | cons t rest ih =>
      rw [row, List.map_cons, ih]
      rfl

theorem any_hasMistake_children (c : Cursor) :
    (c.children.any fun d => d.tree.hasMistake) = c.tree.children.any Tree.hasMistake := by
  have hgap : (fun d : Cursor => !d.tree.isGap && d.tree.hasMistake) =
      Tree.hasMistake ∘ tree := by
    funext d
    rw [Function.comp_apply]
    cases d.tree <;> rfl
  rw [children, List.any_filter, hgap, ← List.any_map, map_tree_row]

/-- A node is marked exactly if a piece at or below it is a mistake. -/
theorem hasMistake_eq_any (c : Cursor) :
    c.tree.hasMistake = c.pieces.any fun d => d.tree.isMistake := by
  induction c using children_induction with
  | step c ih =>
      have hbelow : (c.children.any fun d => d.tree.hasMistake) =
          c.children.any fun d => d.pieces.any fun x => x.tree.isMistake := by
        rw [Bool.eq_iff_iff, List.any_eq_true, List.any_eq_true]
        refine exists_congr fun d => and_congr_right fun hd => ?_
        rw [ih d hd]
      rw [pieces_eq, List.any_cons, List.any_flatMap, Tree.hasMistake_eq,
        ← any_hasMistake_children, hbelow]

/-!
# The search
-/

theorem firstErrorInRow_eq (p : Cursor) (left ts : List Tree) (m : Mark) :
    firstErrorInRow p left m ts = (row p left m ts).findSome? firstError? := by
  induction ts generalizing left m with
  | nil =>
      rfl
  | cons t rest ih =>
      have hhead : (child p left m t).firstError? = firstErrorIn (child p left m t) t := rfl
      rw [firstErrorInRow, ih, row, List.findSome?_cons, hhead]
      cases firstErrorIn (child p left m t) t <;> rfl

/-- White space holds no mistake, so the search of a row is one of the children. -/
theorem findSome?_children (c : Cursor) :
    c.children.findSome? firstError? =
      (row c [] c.start c.tree.children).findSome? firstError? := by
  rw [children, ← List.head?_filterMap, ← List.head?_filterMap, List.filterMap_filter]
  congr 2
  funext d
  unfold firstError?
  cases d.tree <;> rfl

/-- A search looks at the node itself, then at its children if a mistake is below. -/
theorem firstError?_step (c : Cursor) :
    c.firstError? =
      if c.tree.isMistake then some c.mistakeError
      else if c.tree.hasMistake then c.children.findSome? firstError?
      else none := by
  rw [findSome?_children, ← firstErrorInRow_eq]
  unfold firstError?
  cases hc : c.tree with
  | branch f k cs =>
      cases k <;> rfl
  | leaf f k text =>
      cases k <;> rfl
  | _ =>
      rfl

/-- The search finds the first mistake among all pieces. -/
theorem firstError?_eq (c : Cursor) :
    c.firstError? = (c.pieces.find? fun d => d.tree.isMistake).map mistakeError := by
  induction c using children_induction with
  | step c ih =>
      have hbelow : c.children.findSome? firstError? =
          ((c.children.flatMap pieces).find? fun d => d.tree.isMistake).map mistakeError := by
        rw [List.find?_flatMap, List.map_findSome?, ← List.head?_filterMap,
          ← List.head?_filterMap, List.filterMap_congr ih]
        rfl
      rw [firstError?_step, hbelow, hasMistake_eq_any, pieces_eq, List.find?_cons, List.any_cons]
      cases c.tree.isMistake with
      | true =>
          rfl
      | false =>
          rw [Bool.false_or, if_neg Bool.false_ne_true]
          split
          · rfl
          · -- nothing is left out: a branch that is pruned holds no mistake
            rename_i hnone
            have hclean := List.any_eq_false.mp (Bool.eq_false_iff.mpr hnone)
            rw [List.find?_eq_none.mpr hclean]
            rfl

/-!
# The report
-/

/-- What an error says of a mistaken piece: where it stands in the source, and the name of a
node that is missing or else that something is unexpected. -/
structure Describes (source : Text) (c : Cursor) (e : ParseError) : Prop where
  span : e.span? = some c.span
  place : ∃ before after, source = before ++ c.text ++ after ∧
    c.span = ⟨Text.bytes before, Text.bytes before + Text.bytes c.text, 1 + before.count '\n',
      1 + Text.bytes (Text.lastLine before)⟩
  missing : ∀ name, c.tree.missing? = some name →
    e.label = "missing \x60".toList ++ name ++ ['\x60']
  unexpected : c.tree.missing? = none → "unexpected ".toList <+: e.label

theorem unexpected_prefix (t : Text) : "unexpected ".toList <+: unexpected t := by
  unfold unexpected
  dsimp only
  split
  · exact ⟨"end of input".toList, rfl⟩
  · exact ⟨'\x60' :: Text.trim (firstLine t) ++ ['\x60'], rfl⟩

theorem mistakeError_eq (c : Cursor) :
    c.mistakeError = .invalidSyntax c.span ((c.tree.missing?.map fun name =>
      "missing \x60".toList ++ name ++ ['\x60']).getD (unexpected c.text)) := by
  unfold mistakeError
  cases c.tree <;> rfl

theorem StandsIn.describes {source : Text} {c : Cursor} (h : StandsIn source c) :
    Describes source c c.mistakeError := by
  rw [mistakeError_eq]
  constructor
  case span =>
      rfl
  case place =>
      exact h.split
  case missing =>
      intro name hname
      rw [hname]
      rfl
  case unexpected =>
      intro hnone
      rw [hnone]
      exact unexpected_prefix c.text

end Cursor

namespace Module

theorem parse_eq_error_iff {source : Text} {e : ParseError} :
    parse source = .error e ↔ (Cursor.root (Parse.tree source)).firstError? = some e := by
  unfold parse
  split
  · rename_i e' he
    rw [he, Except.error.injEq, Option.some.injEq]
  · rename_i hnone
    simp [hnone]

theorem exists_parse_eq_ok_iff {source : Text} :
    (∃ m, parse source = .ok m) ↔ (Cursor.root (Parse.tree source)).firstError? = none := by
  unfold parse
  split
  · rename_i e he
    simp [he]
  · rename_i hnone
    simp [hnone]

end Module

/-- The search reports the first of all pieces of a tree that is a mistake, and nothing
exactly if there is none.  The mark by which it prunes says of every piece whether a mistake
is at or below it.  So the sources with a tree without mistakes are those that are parsed. -/
theorem search_reports_first_mistake (t : Tree) :
    (∀ c, (Cursor.root t).Within c →
      (c.tree.hasMistake = false ↔ ∀ d, c.Within d → d.tree.IsClean)) ∧
    ((Cursor.root t).firstError? = none ↔ ∀ c, (Cursor.root t).Within c → c.tree.IsClean) ∧
    (∀ e, (Cursor.root t).firstError? = some e →
      ∃ front c back, (Cursor.root t).pieces = front ++ c :: back ∧
        (∀ d ∈ front, d.tree.IsClean) ∧ ¬ c.tree.IsClean ∧ c.Describes t.text e) ∧
    ∀ source,
      ((∃ m, Module.parse source = .ok m) ↔
        ∀ c, (Cursor.root (Parse.tree source)).Within c → c.tree.IsClean) ∧
      ∀ e, Module.parse source = .error e ↔
        (Cursor.root (Parse.tree source)).firstError? = some e := by
  have hclean : ∀ c : Cursor, c.firstError? = none ↔ ∀ d, c.Within d → d.tree.IsClean := by
    intro c
    rw [Cursor.firstError?_eq, Option.map_eq_none_iff, List.find?_eq_none]
    simp only [Cursor.mem_pieces, Bool.not_eq_true, Tree.isClean_iff]
  refine ⟨?_, hclean _, ?_, ?_⟩
  · intro c _
    rw [Cursor.hasMistake_eq_any, List.any_eq_false]
    simp only [Cursor.mem_pieces, Bool.not_eq_true, Tree.isClean_iff]
  · intro e he
    rw [Cursor.firstError?_eq] at he
    rcases Option.map_eq_some_iff.mp he with ⟨c, hfound, rfl⟩
    rcases List.find?_eq_some_iff_append.mp hfound with ⟨hmistake, front, back, hpieces, hfront⟩
    have hwithin : (Cursor.root t).Within c := by
      rw [← Cursor.mem_pieces, hpieces]
      simp
    refine ⟨front, c, back, hpieces, ?_, ?_, ?_⟩
    · intro d hd
      rw [Tree.isClean_iff]
      simpa using hfront d hd
    · rw [Tree.isClean_iff, hmistake]
      simp
    · exact ((Cursor.standsIn_root t).within hwithin).describes
  · intro source
    rw [Module.exists_parse_eq_ok_iff]
    exact ⟨hclean _, fun _ => Module.parse_eq_error_iff⟩

/-- A tree with a missing node of the kind of errors behind pieces without mistakes, and an
error behind it. -/
def brokenTree : Tree :=
  .branch none .program
    [.leaf none .comment "/**/", .gap "\n",
      .branch none .expressionStatement
        [.branch none .parenthesizedExpression
          [.token none "(", .missing none "ERROR", .token none ")"]],
      .leaf none .error "x"]

theorem search_reports_first_mistake_broken :
    (Cursor.root brokenTree).firstError? =
        some (.invalidSyntax ⟨6, 6, 2, 2⟩ "missing \x60ERROR\x60") ∧
      ∃ front c back, (Cursor.root brokenTree).pieces = front ++ c :: back ∧
        (∀ d ∈ front, d.tree.IsClean) ∧ ¬ c.tree.IsClean ∧
        c.Describes brokenTree.text (.invalidSyntax ⟨6, 6, 2, 2⟩ "missing \x60ERROR\x60") := by
  have hfirst : (Cursor.root brokenTree).firstError? =
      some (.invalidSyntax ⟨6, 6, 2, 2⟩ "missing \x60ERROR\x60") := by
    rfl
  exact ⟨hfirst, (search_reports_first_mistake brokenTree).2.2.1 _ hfirst⟩

end ComponentDecl
