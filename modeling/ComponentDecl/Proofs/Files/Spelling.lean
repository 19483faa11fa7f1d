import ComponentDecl.Files.Path
import Mathlib.Logic.Relation

/-!
# Spellings of a path

A further separator, a point between separators and a separator at the end say nothing
about a path.  Texts that differ by such signs alone spell the same path.  They are the
texts that have the same parts and of which both or neither start at the root.
-/

namespace ComponentDecl
namespace Path

/-- One sign that says nothing is left out of a path. -/
inductive LeavesOut : Text → Text → Prop where
  /-- A repeated separator. -/
  | separator (u v : Text) : LeavesOut (u ++ '/' :: '/' :: v) (u ++ '/' :: v)
  /-- A point between separators. -/
  | point (u v : Text) : LeavesOut (u ++ '/' :: '.' :: '/' :: v) (u ++ '/' :: v)
  /-- A point behind the last separator. -/
  | lastPoint (u : Text) : LeavesOut (u ++ ['/', '.']) (u ++ ['/'])
  /-- A separator at the end, unless it is the whole path. -/
  | lastSeparator {u : Text} (hu : u ≠ []) : LeavesOut (u ++ ['/']) u

/-- Two texts spell the same path: signs that say nothing lead from one to the other. -/
def Same : Text → Text → Prop :=
  Relation.EqvGen LeavesOut

theorem same_refl (t : Text) : Same t t :=
  Relation.EqvGen.refl t

theorem Same.symm {s t : Text} (h : Same s t) : Same t s :=
  Relation.EqvGen.symm s t h

theorem Same.trans {s t u : Text} (h : Same s t) (h' : Same t u) : Same s u :=
  Relation.EqvGen.trans s t u h h'

theorem LeavesOut.same {s t : Text} (h : LeavesOut s t) : Same s t :=
  Relation.EqvGen.rel s t h

/-!
# Segments
-/

theorem exists_segments (t : Text) : ∃ first more, segments t = first :: more := by
  cases t with
  | nil =>
      exact ⟨[], [], rfl⟩
  | cons c t =>
      unfold segments
      split
      · exact ⟨[c], [], rfl⟩
      · split
        · exact ⟨_, _, rfl⟩
        · exact ⟨_, _, rfl⟩

theorem segments_append_slash (u v : Text) :
    segments (u ++ '/' :: v) = segments u ++ segments v := by
  induction u with
  | nil =>
      rcases exists_segments v with ⟨first, more, hv⟩
      simp [segments, hv]
  | cons c u ih =>
      rcases exists_segments u with ⟨first, more, hu⟩
      rw [List.cons_append, segments, segments, ih, hu]
      by_cases hc : c = '/'
      · simp [hc]
      · simp [hc]

theorem segments_slash_cons (t : Text) : segments ('/' :: t) = [] :: segments t :=
  segments_append_slash [] t

theorem joinWith_segments (t : Text) : Text.joinWith ['/'] (segments t) = t := by
  induction t with
  | nil =>
      rfl
  | cons c t ih =>
      rcases exists_segments t with ⟨first, more, ht⟩
      rw [ht] at ih
      by_cases hc : c = '/'
      · rw [hc, segments_slash_cons, ht]
        exact congrArg ('/' :: ·) ih
      · have hcons : segments (c :: t) = (c :: first) :: more := by
          simp [segments, ht, hc]
        rw [hcons, ← ih]
        cases more with
        | nil =>
            rfl
        | cons _ _ =>
            rfl

theorem isVoid_iff {s : Text} : isVoid s = true ↔ s = [] ∨ s = ['.'] := by
  rw [isVoid, Bool.or_eq_true, beq_iff_eq, beq_iff_eq]

/-!
# The same path has the same parts
-/

theorem names_append_slash (u v : Text) : names (u ++ '/' :: v) = names u ++ names v := by
  rw [names, segments_append_slash, List.filter_append]
  rfl

theorem head?_segments_append_slash (u v : Text) :
    (segments (u ++ '/' :: v)).head? = (segments u).head? := by
  rcases exists_segments u with ⟨first, more, hu⟩
  rw [segments_append_slash, hu]
  rfl

theorem startsWith_slash (t : Text) : Text.startsWith "/" t = (t.head? == some '/') := by
  cases t with
  | nil =>
      rfl
  | cons c t =>
      by_cases hc : '/' = c
      · subst hc
        rfl
      · simp [Text.startsWith, Text.strip?, hc, Ne.symm hc]

/-- What is read of a text: its first character, its first segment and its names. -/
theorem ofText_congr {s t : Text} (hhead : s.head? = t.head?)
    (hfirst : (segments s).head? = (segments t).head?) (hnames : names s = names t) :
    ofText s = ofText t := by
  rw [ofText, ofText, startsWith_slash, startsWith_slash, hhead, hfirst, hnames]

theorem ofText_append_slash (u : Text) {v w : Text} (h : names v = names w) :
    ofText (u ++ '/' :: v) = ofText (u ++ '/' :: w) := by
  apply ofText_congr
  · cases u with
    | nil =>
        rfl
    | cons _ _ =>
        rfl
  · rw [head?_segments_append_slash, head?_segments_append_slash]
  · rw [names_append_slash, names_append_slash, h]

theorem LeavesOut.ofText_eq {s t : Text} (h : LeavesOut s t) : ofText s = ofText t := by
  cases h with
  | separator u v =>
      exact ofText_append_slash u (names_append_slash [] v)
  | point u v =>
      exact ofText_append_slash u (names_append_slash ['.'] v)
  | lastPoint u =>
      have hpoint : names ['.'] = names [] := rfl
      exact ofText_append_slash u hpoint
  | lastSeparator hu =>
      apply ofText_congr
      · rw [List.head?_append, List.head?_eq_some_head hu]
        rfl
      · exact head?_segments_append_slash t []
      · rw [names_append_slash]
        exact List.append_nil _

/-!
# The same parts are the same path
-/

/-- The spelling of a path without a sign too many. -/
def text (p : Path) : Text :=
  if p.rooted then '/' :: Text.joinWith ['/'] p.parts else Text.joinWith ['/'] p.parts

/-- A segment that names nothing can be left out. -/
theorem same_of_isVoid {s : Text} (hs : isVoid s = true) (u : Text) (rest : List Text) :
    Same (u ++ '/' :: Text.joinWith ['/'] (s :: rest)) (u ++ '/' :: Text.joinWith ['/'] rest) := by
  rcases isVoid_iff.mp hs with rfl | rfl
  · cases rest with
    | nil =>
        exact same_refl _
    | cons r rest =>
        exact (LeavesOut.separator u _).same
  · cases rest with
    | nil =>
        exact (LeavesOut.lastPoint u).same
    | cons r rest =>
        exact (LeavesOut.point u _).same

/-- A separator behind a segment stands there only if further ones follow. -/
theorem same_joinWith_cons {s : Text} (hs : s ≠ []) (u : Text) (rest : List Text) :
    Same (u ++ s ++ '/' :: Text.joinWith ['/'] rest)
      (u ++ Text.joinWith ['/'] (s :: rest)) := by
  cases rest with
  | nil =>
      exact (LeavesOut.lastSeparator (List.append_ne_nil_of_right_ne_nil u hs)).same
  | cons r rest =>
      have hjoin : Text.joinWith ['/'] (s :: r :: rest) =
          s ++ '/' :: Text.joinWith ['/'] (r :: rest) := List.append_assoc s ['/'] _
      rw [hjoin, ← List.append_assoc]
      exact same_refl _

/-- All segments that name nothing can be left out. -/
theorem same_filter (u : Text) (ss : List Text) :
    Same (u ++ '/' :: Text.joinWith ['/'] ss)
      (u ++ '/' :: Text.joinWith ['/'] (ss.filter fun s => !isVoid s)) := by
  -- the segments that were looked at and are kept move into `u`
  induction ss generalizing u with
  | nil =>
      exact same_refl _
  | cons s rest ih =>
      by_cases hs : isVoid s = true
      · rw [List.filter_cons_of_neg (by simp [hs])]
        exact (same_of_isVoid hs u rest).trans (ih u)
      · rw [List.filter_cons_of_pos (by simp [hs])]
        have hne : s ≠ [] := by
          rintro rfl
          exact hs rfl
        have hcons (rest : List Text) := same_joinWith_cons hne (u ++ ['/']) rest
        have hrest := ih (u ++ '/' :: s)
        simp only [List.append_assoc, List.cons_append, List.nil_append] at hcons hrest ⊢
        exact ((hcons rest).symm.trans hrest).trans (hcons _)

theorem ofText_slash_cons (t : Text) : ofText ('/' :: t) = ⟨true, names t⟩ := by
  have hroot : Text.startsWith "/" ('/' :: t) = true := rfl
  rw [ofText, if_pos hroot]
  exact congrArg (Path.mk true) (names_append_slash [] t)

/-- The first segment of a path that does not start at the root is kept, also if it is a
point. -/
theorem ofText_cons {c : Char} (hc : c ≠ '/') (t : Text) :
    ∃ first more, segments (c :: t) = (c :: first) :: more ∧
      ofText (c :: t) = ⟨false, (c :: first) :: more.filter fun s => !isVoid s⟩ := by
  rcases exists_segments t with ⟨first, more, ht⟩
  have hsegments : segments (c :: t) = (c :: first) :: more := by
    simp [segments, ht, hc]
  refine ⟨first, more, hsegments, ?_⟩
  have hroot : ¬ Text.startsWith "/" (c :: t) = true := by
    rw [startsWith_slash, List.head?_cons, beq_iff_eq, Option.some.injEq]
    exact hc
  rw [ofText, if_neg hroot, names, hsegments, List.head?_cons]
  -- a point in front is no name, but it is put back before the names
  by_cases hpoint : c :: first = ['.']
  · rw [hpoint]
    rfl
  · have hfirst : isVoid (c :: first) = false := by
      rw [Bool.eq_false_iff, Ne, isVoid_iff, not_or]
      exact ⟨List.cons_ne_nil c first, hpoint⟩
    rw [if_neg (by rwa [beq_iff_eq, Option.some.injEq]),
      List.filter_cons_of_pos (by rw [hfirst, Bool.not_false])]

/-- Every spelling of a path is the same as the one without a sign too many. -/
theorem same_text_ofText (t : Text) : Same t (ofText t).text := by
  cases t with
  | nil =>
      exact same_refl _
  | cons c t =>
      by_cases hc : c = '/'
      · have hnames := same_filter [] (segments t)
        rw [joinWith_segments] at hnames
        rw [hc, ofText_slash_cons]
        exact hnames
      · rcases ofText_cons hc t with ⟨first, more, hsegments, hpath⟩
        have hcons := same_joinWith_cons (List.cons_ne_nil c first) []
        have hjoin := (hcons more).symm
        rw [← hsegments, joinWith_segments] at hjoin
        rw [hpath]
        exact (hjoin.trans (same_filter _ more)).trans (hcons _)

/-- Texts spell the same path exactly if they have the same parts and both or neither start at
the root. -/
theorem same_iff {s t : Text} : Same s t ↔ ofText s = ofText t := by
  constructor
  · intro h
    induction h with
    | rel s t h =>
        exact h.ofText_eq
    | refl t =>
        rfl
    | symm s t _ ih =>
        exact ih.symm
    | trans s t u _ _ ih ih' =>
        exact ih.trans ih'
  · intro h
    have hs := same_text_ofText s
    rw [h] at hs
    exact hs.trans (same_text_ofText t).symm

instance (s t : Text) : Decidable (Same s t) :=
  decidable_of_iff _ same_iff.symm

/-- A point in front, two points and the root are kept. -/
example : Same "/./a//b/." "/a/b" ∧ Same "././a/" "./a" ∧ ¬ Same "./a" "a" ∧
    ¬ Same "a/../b" "b" ∧ ¬ Same "/a" "a" := by
  decide

end Path
end ComponentDecl
