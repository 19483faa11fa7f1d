import ComponentDecl.Proofs.Comment

/-!
# Comments written again

A comment that was written can be lifted out of the text and written once more, at another
depth perhaps.  The first writing has changed the blanks at the start of the further lines
and the carriage returns at the end of every line.  The second writing looks at neither, so
it gives what it would have given for the first text.
-/

namespace ComponentDecl

/-!
# Trimming at both ends
-/

namespace Text

/-- A line without its indentation and without the carriage returns at its end. -/
def content (line : Text) : Text :=
  trimStart (trimReturns line)

theorem trimReturns_cons (c : Char) (t : Text) :
    trimReturns (c :: t) = if trimReturns t = [] ∧ c = '\r' then [] else c :: trimReturns t := by
  unfold trimReturns
  rw [List.reverse_cons, List.dropWhile_append]
  by_cases hdrop : t.reverse.dropWhile (· == '\r') = []
  · by_cases hc : c = '\r' <;> simp [hdrop, hc]
  · simp [hdrop]

theorem trimReturns_idem (t : Text) : trimReturns (trimReturns t) = trimReturns t := by
  simp [trimReturns, List.dropWhile_idempotent]

theorem trimStart_cons (c : Char) (t : Text) :
    trimStart (c :: t) = if isBlank c then trimStart t else c :: t :=
  List.dropWhile_cons

theorem trimStart_append_of_all {s : Text} (h : ∀ c ∈ s, isBlank c = true) (t : Text) :
    trimStart (s ++ t) = trimStart t :=
  List.dropWhile_append_of_pos h

/-- The two ends of a line may be trimmed in either order. -/
theorem trimStart_trimReturns (t : Text) :
    trimStart (trimReturns t) = trimReturns (trimStart t) := by
  induction t with
  | nil =>
      rfl
  | cons c t ih =>
      rw [trimStart_cons]
      by_cases hblank : isBlank c = true
      · rw [if_pos hblank, ← ih, trimReturns_cons]
        split
        · rename_i hc
          rw [hc.1]
        · rw [trimStart_cons, if_pos hblank]
      · have hc : ¬ c = '\r' := by
          rintro rfl
          exact hblank (by decide)
        rw [if_neg hblank, trimReturns_cons, if_neg (fun h => hc h.2), trimStart_cons,
          if_neg hblank]

theorem content_trimReturns (line : Text) : content (trimReturns line) = content line := by
  rw [content, trimReturns_idem, content]

theorem content_pad {pad : Text} (hpad : ∀ c ∈ pad, isBlank c = true) (line : Text) :
    content (pad ++ line) = content line := by
  rw [content, trimStart_trimReturns, trimStart_append_of_all hpad, ← trimStart_trimReturns,
    content]

/-!
# Lines put together
-/

theorem lines_of_notMem {t : Text} (h : '\n' ∉ t) : lines t = [t] := by
  induction t with
  | nil =>
      rfl
  | cons c t ih =>
      rw [List.mem_cons, not_or] at h
      rw [lines, ih h.2]
      exact if_neg (Ne.symm h.1)

theorem lines_append_cons {s : Text} (h : '\n' ∉ s) (t : Text) :
    lines (s ++ '\n' :: t) = s :: lines t := by
  rcases lines_spec t with ⟨first, more, hlines, _⟩
  induction s with
  | nil =>
      rw [List.nil_append, lines, hlines]
      exact if_pos rfl
  | cons c s ih =>
      rw [List.mem_cons, not_or] at h
      rw [List.cons_append, lines, ih h.2]
      exact if_neg (Ne.symm h.1)

/-- Lines with line feeds between them are the lines of the text that they make up. -/
theorem lines_flatMap {first : Text} {more : List Text} (hfirst : '\n' ∉ first)
    (hmore : ∀ line ∈ more, '\n' ∉ line) :
    lines (first ++ more.flatMap ('\n' :: ·)) = first :: more := by
  induction more generalizing first with
  | nil =>
      rw [List.flatMap_nil, List.append_nil, lines_of_notMem hfirst]
  | cons line more ih =>
      rcases List.forall_mem_cons.mp hmore with ⟨hline, hmore⟩
      rw [List.flatMap_cons, List.cons_append, lines_append_cons hfirst, ih hline hmore]

theorem length_lines (t : Text) : (lines t).length = t.count '\n' + 1 := by
  induction t with
  | nil =>
      rfl
  | cons c t ih =>
      rcases lines_spec t with ⟨first, more, hlines, _⟩
      rw [hlines] at ih
      rw [lines, hlines]
      by_cases hc : c = '\n'
      · simp [hc, ← ih]
      · simp [hc, ← ih]

end Text

/-!
# The lines of a written comment
-/

namespace Writer

theorem content_gutter (last : Bool) (line : Text) :
    Text.content (gutter last line) = Text.content line := by
  rw [Text.content, Text.trimStart_trimReturns, trimStart_gutter, ← Text.trimStart_trimReturns,
    Text.content]

theorem gutter_congr {line line' : Text} (h : Text.trimStart line = Text.trimStart line')
    (last : Bool) : gutter last line = gutter last line' := by
  unfold gutter
  rw [h]

theorem commentParts_eq {t first : Text} {more : List Text}
    (h : Text.lines t = first :: more) :
    commentParts t = Text.trimReturns first :: more.map Text.trimReturns := by
  rw [commentParts, h, List.map_cons]

end Writer

/-- The further lines of a comment as they are written, their padding included. -/
def paddedLines (pad : Text) : List Text → List Text
  | [] => []
  | line :: rest => (pad ++ Writer.gutter rest.isEmpty line) :: paddedLines pad rest

theorem commentRest_eq (pad : Text) (ls : List Text) :
    commentRest pad ls = (paddedLines pad ls).flatMap ('\n' :: ·) := by
  induction ls with
  | nil =>
      rfl
  | cons line rest ih =>
      rw [commentRest, ih, paddedLines, List.flatMap_cons]
      rfl

theorem isEmpty_paddedLines (pad : Text) (ls : List Text) :
    (paddedLines pad ls).isEmpty = ls.isEmpty := by
  cases ls <;> rfl

section Pad

variable {pad : Text} (hpad : ∀ c ∈ pad, Text.isBlank c = true)

include hpad

theorem content_paddedLines (ls : List Text) :
    (paddedLines pad ls).map Text.content = ls.map Text.content := by
  induction ls with
  | nil =>
      rfl
  | cons line rest ih =>
      rw [paddedLines, List.map_cons, List.map_cons, ih, Text.content_pad hpad,
        Writer.content_gutter]

/-- Lines that were written are written again as they were the first time. -/
theorem commentRest_paddedLines (pad' : Text) {ls : List Text}
    (hls : ∀ line ∈ ls, Text.trimReturns line = line) :
    commentRest pad' ((paddedLines pad ls).map Text.trimReturns) = commentRest pad' ls := by
  induction ls with
  | nil =>
      rfl
  | cons line rest ih =>
      have hline : Text.trimStart (Text.trimReturns (pad ++ Writer.gutter rest.isEmpty line)) =
          Text.trimStart line := by
        have hcontent := Text.content_pad hpad (Writer.gutter rest.isEmpty line)
        rw [Writer.content_gutter] at hcontent
        rw [← Text.content, hcontent, Text.content, hls line List.mem_cons_self]
      rw [paddedLines, List.map_cons, commentRest, commentRest,
        ih fun l hl => hls l (List.mem_cons_of_mem line hl), List.isEmpty_map,
        isEmpty_paddedLines, Writer.gutter_congr hline]

end Pad

theorem notMem_paddedLines {pad : Text} (hpad : '\n' ∉ pad) {ls : List Text}
    (hls : ∀ line ∈ ls, '\n' ∉ line) : ∀ line ∈ paddedLines pad ls, '\n' ∉ line := by
  induction ls with
  | nil =>
      intro line hline
      cases hline
  | cons line rest ih =>
      intro written hwritten
      rcases List.mem_cons.mp hwritten with rfl | hwritten
      · have hgutter := notMem_gutter (hls line List.mem_cons_self) rest.isEmpty
        simp [hpad, hgutter]
      · exact ih (fun l hl => hls l (List.mem_cons_of_mem line hl)) written hwritten

theorem lines_commentBody {pad : Text} (hpad : '\n' ∉ pad) (t : Text) :
    ∃ first more, Text.lines t = first :: more ∧
      Text.lines (commentBody pad t) =
        Text.trimReturns first :: paddedLines pad (more.map Text.trimReturns) := by
  rcases Text.lines_spec t with ⟨first, more, hlines, _⟩
  have hparts := Writer.commentParts_eq hlines
  have hbreaks := fun line (hline : line ∈ Writer.commentParts t) =>
    Writer.notMem_commentParts hline
  rw [hparts, List.forall_mem_cons] at hbreaks
  refine ⟨first, more, hlines, ?_⟩
  simp only [commentBody, hparts]
  rw [commentRest_eq, Text.lines_flatMap hbreaks.1 (notMem_paddedLines hpad hbreaks.2)]

/-- A comment that was written behind one padding is written behind another as its text is. -/
theorem commentBody_commentBody {pad : Text} (hblank : ∀ c ∈ pad, Text.isBlank c = true)
    (hbreak : '\n' ∉ pad) (pad' t : Text) :
    commentBody pad' (commentBody pad t) = commentBody pad' t := by
  rcases lines_commentBody hbreak t with ⟨first, more, hlines, hbody⟩
  have hmore : ∀ line ∈ more.map Text.trimReturns, Text.trimReturns line = line := by
    intro line hline
    rcases List.mem_map.mp hline with ⟨l, _, rfl⟩
    exact Text.trimReturns_idem l
  rw [commentBody, Writer.commentParts_eq hbody, Text.trimReturns_idem, commentBody,
    Writer.commentParts_eq hlines]
  dsimp only
  rw [commentRest_paddedLines hblank pad' hmore]

/-!
# Writing a comment
-/

theorem Text.mem_times {n : Nat} {t : Text} {c : Char} (h : c ∈ times n t) : c ∈ t := by
  rcases List.mem_flatten.mp h with ⟨s, hs, hc⟩
  rwa [List.eq_of_mem_replicate hs] at hc

/-- A comment keeps its lines but for the blanks at the start of the further ones and the
carriage returns at their ends.  What was written between its marks is written again by any
writer as the text itself is. -/
theorem comment_rewrites_stably {unit : Text} (hblank : ∀ c ∈ unit, Text.isBlank c = true)
    (hbreak : '\n' ∉ unit) (t : Text) (depth : Nat) :
    ∃ body : Text,
      (∀ old, Writer.comment t ⟨old, depth, unit⟩ =
        ⟨old ++ (Text.times depth unit ++ "/*".toList ++ body ++ "*/\n".toList), depth, unit⟩) ∧
      body.count '\n' = t.count '\n' ∧
      (Text.lines body).head? = (Text.lines t).head?.map Text.trimReturns ∧
      (Text.lines body).tail.map Text.content = (Text.lines t).tail.map Text.content ∧
      ∀ w : Writer, w.comment body = w.comment t := by
  have hpad : ∀ c ∈ Text.times depth unit, Text.isBlank c = true :=
    fun c hc => hblank c (Text.mem_times hc)
  have hpadbreak : '\n' ∉ Text.times depth unit := fun h => hbreak (Text.mem_times h)
  rcases lines_commentBody hpadbreak t with ⟨first, more, hlines, hbody⟩
  have hcontents : (Text.lines (commentBody (Text.times depth unit) t)).tail.map Text.content =
      (Text.lines t).tail.map Text.content := by
    rw [hbody, hlines, List.tail_cons, List.tail_cons, content_paddedLines hpad, List.map_map]
    congr 1
    funext line
    exact Text.content_trimReturns line
  refine ⟨commentBody (Text.times depth unit) t, ?_, ?_, ?_, hcontents, ?_⟩
  · intro old
    rw [Writer.comment_eq]
    rfl
  · -- a text has one line more than it has line feeds
    have hlength := congrArg List.length hcontents
    simp only [List.length_map, List.length_tail, Text.length_lines] at hlength
    exact hlength
  · rw [hbody, hlines]
    rfl
  · intro w
    rw [Writer.comment_eq, Writer.comment_eq, commentText, commentText,
      commentBody_commentBody hpad hpadbreak]

/-- A comment with carriage returns, further lines indented in three ways and an empty last
line. -/
def raggedComment : Text :=
  "* a \r\n\t\t * b\r\r\n  c\r\n\t"

theorem comment_rewrites_stably_ragged :
    (∀ c ∈ "\t ".toList, Text.isBlank c = true) ∧ '\n' ∉ "\t ".toList ∧
      ∃ body : Text,
        Writer.comment raggedComment ⟨"x", 2, "\t "⟩ =
          ⟨"x".toList ++ (Text.times 2 "\t " ++ "/*".toList ++ body ++ "*/\n".toList), 2, "\t "⟩ ∧
        body.count '\n' = 3 ∧
        (Text.lines body).tail.map Text.content = ["* b", "c", ""] ∧
        ∀ w : Writer, w.comment body = w.comment raggedComment := by
  have hblank : ∀ c ∈ "\t ".toList, Text.isBlank c = true := List.all_eq_true.mp rfl
  have hbreak : '\n' ∉ "\t ".toList := by decide
  rcases comment_rewrites_stably hblank hbreak raggedComment 2 with
    ⟨body, hwritten, hcount, _, hcontents, hagain⟩
  exact ⟨hblank, hbreak, body, hwritten "x", hcount, hcontents, hagain⟩

end ComponentDecl
