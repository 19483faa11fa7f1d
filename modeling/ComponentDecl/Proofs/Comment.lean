import ComponentDecl.Proofs.Lexeme
import ComponentDecl.Proofs.Writing
import Mathlib.Data.List.DropRight

/-!
# Comments as they are written

A comment is written line by line behind a padding of blanks.  What is written holds no
end mark where the text had none, and it determines the lines of the text up to the blanks
at their start and the carriage returns at their end.
-/

namespace ComponentDecl

/-!
# Lines
-/

namespace Text

/-- A text is its lines with line feeds between them. -/
theorem lines_spec (t : Text) :
    ∃ first more, lines t = first :: more ∧ t = first ++ more.flatMap ('\n' :: ·) := by
  induction t with
  | nil =>
      exact ⟨[], [], rfl, rfl⟩
  | cons c t ih =>
      rcases ih with ⟨first, more, hlines, ht⟩
      by_cases hc : c = '\n'
      · refine ⟨[], first :: more, by simp [lines, hlines, hc], ?_⟩
        rw [hc, ht, List.flatMap_cons]
        rfl
      · refine ⟨c :: first, more, by simp [lines, hlines, hc], ?_⟩
        rw [List.cons_append, ← ht]

theorem notMem_lines {t line : Text} (h : line ∈ lines t) : '\n' ∉ line := by
  induction t generalizing line with
  | nil =>
      rw [lines, List.mem_singleton] at h
      simp [h]
  | cons c t ih =>
      rcases lines_spec t with ⟨first, more, hlines, _⟩
      have hfirst : '\n' ∉ first := ih (by simp [hlines])
      have hmore : ∀ l ∈ more, '\n' ∉ l := fun l hl => ih (by simp [hlines, hl])
      by_cases hc : c = '\n'
      · simp only [lines, hlines, hc, if_true, List.mem_cons] at h
        rcases h with rfl | rfl | hl
        · simp
        · exact hfirst
        · exact hmore line hl
      · simp only [lines, hlines, hc, if_false, List.mem_cons] at h
        rcases h with rfl | hl
        · simp [hfirst, Ne.symm hc]
        · exact hmore line hl

theorem infix_of_mem_lines {t line : Text} (h : line ∈ lines t) : line <:+: t := by
  rcases lines_spec t with ⟨first, more, hlines, ht⟩
  rw [hlines, List.mem_cons] at h
  rcases h with rfl | hl
  · rw [ht]
    exact (List.prefix_append line _).isInfix
  · have hmem : '\n' :: line ∈ more.map ('\n' :: ·) := List.mem_map_of_mem hl
    have hinfix : '\n' :: line <:+: more.flatMap ('\n' :: ·) := by
      rw [List.flatMap_def]
      exact List.infix_of_mem_flatten hmem
    rw [ht]
    exact ((List.suffix_cons '\n' line).isInfix.trans hinfix).trans
      (List.suffix_append first _).isInfix

theorem trimReturns_prefix (t : Text) : trimReturns t <+: t := by
  unfold trimReturns
  rw [← List.reverse_suffix, List.reverse_reverse]
  exact List.dropWhile_suffix _

theorem trimStart_suffix (t : Text) : trimStart t <:+ t :=
  List.dropWhile_suffix _

end Text

theorem Writer.infix_of_mem_commentParts {t line : Text} (h : line ∈ commentParts t) :
    line <:+: t := by
  rcases List.mem_map.mp h with ⟨l, hl, rfl⟩
  exact (Text.trimReturns_prefix l).isInfix.trans (Text.infix_of_mem_lines hl)

theorem Writer.notMem_commentParts {t line : Text} (h : line ∈ commentParts t) :
    '\n' ∉ line := by
  rcases List.mem_map.mp h with ⟨l, hl, rfl⟩
  intro hn
  exact Text.notMem_lines hl ((Text.trimReturns_prefix l).subset hn)

/-!
# No end mark
-/

namespace Lexeme

theorem NoEnd.of_infix {s t : Text} (ht : NoEnd t) (hs : s <:+: t) : NoEnd s := by
  intro hend
  exact ht (hend.trans hs)

/-- An end mark in two texts put together lies in one of them or on the seam. -/
theorem NoEnd.append {s t : Text} (hs : NoEnd s) (ht : NoEnd t)
    (hseam : ¬(s.getLast? = some '*' ∧ t.head? = some '/')) : NoEnd (s ++ t) := by
  induction s with
  | nil =>
      exact ht
  | cons c s ih =>
      rw [noEnd_cons] at hs
      rw [List.cons_append, noEnd_cons]
      cases s with
      | nil =>
          refine ⟨?_, ht⟩
          rintro ⟨rfl, hhead⟩
          exact hseam ⟨rfl, hhead⟩
      | cons d s =>
          refine ⟨hs.1, ih hs.2 ?_⟩
          rwa [List.getLast?_cons_cons] at hseam

/-- The first end mark behind a text without one is found again. -/
theorem NoEnd.split {b b' r r' : Text} (hb : NoEnd b) (hb' : NoEnd b')
    (h : b ++ '*' :: '/' :: r = b' ++ '*' :: '/' :: r') : b = b' ∧ r = r' := by
  have hnil : ∀ {c r r' : Text}, NoEnd c → '*' :: '/' :: r = c ++ '*' :: '/' :: r' → c = [] := by
    intro c r r' hc heq
    cases c with
    | nil =>
        rfl
    | cons x c =>
        rcases List.cons.inj heq with ⟨rfl, htail⟩
        cases c with
        | nil =>
            exact absurd (List.cons.inj htail).1 (by decide)
        | cons y c =>
            have hy : y = '/' := (List.cons.inj htail).1.symm
            exact absurd ⟨rfl, congrArg some hy⟩ (noEnd_cons.mp hc).1
  induction b generalizing b' with
  | nil =>
      rcases hnil hb' h with rfl
      simpa using h
  | cons x b ih =>
      cases b' with
      | nil =>
          exact absurd (hnil hb h.symm) (by simp)
      | cons y b' =>
          rcases List.cons.inj h with ⟨rfl, htail⟩
          rcases ih (noEnd_cons.mp hb).2 (noEnd_cons.mp hb').2 htail with ⟨rfl, hr⟩
          exact ⟨rfl, hr⟩

theorem noEnd_of_notMem {t : Text} (h : '*' ∉ t) : NoEnd t := by
  intro hend
  exact h (hend.subset List.mem_cons_self)

end Lexeme

theorem noEnd_gutter {line : Text} (h : Lexeme.NoEnd line) (last : Bool) :
    Lexeme.NoEnd (Writer.gutter last line) := by
  have hbody : Lexeme.NoEnd (Text.trimStart line) :=
    h.of_infix (Text.trimStart_suffix line).isInfix
  unfold Writer.gutter
  dsimp only
  split
  · rw [Lexeme.noEnd_cons]
    exact ⟨by simp, hbody⟩
  · exact hbody

theorem head?_commentRest (pad : Text) (ls : List Text) :
    ∀ c ∈ (commentRest pad ls).head?, c = '\n' := by
  cases ls with
  | nil =>
      simp [commentRest]
  | cons line rest =>
      simp [commentRest]

section Pad

variable {pad : Text} (hpad : ∀ c ∈ pad, Text.isBlank c = true)

include hpad

theorem notMem_pad {c : Char} (hc : Text.isBlank c = false) : c ∉ pad := by
  intro hmem
  rw [hpad c hmem] at hc
  cases hc

theorem noEnd_commentRest {ls : List Text} (h : ∀ line ∈ ls, Lexeme.NoEnd line) :
    Lexeme.NoEnd (commentRest pad ls) := by
  induction ls with
  | nil =>
      exact Lexeme.noEnd_nil
  | cons line rest ih =>
      have hstar : '*' ∉ '\n' :: pad := by
        simp [notMem_pad hpad (c := '*') (by decide)]
      have hrest : Lexeme.NoEnd (commentRest pad rest) :=
        ih fun l hl => h l (List.mem_cons_of_mem line hl)
      have hline := noEnd_gutter (h line List.mem_cons_self) rest.isEmpty
      rw [commentRest, List.append_assoc]
      apply (Lexeme.noEnd_of_notMem hstar).append
      · apply hline.append hrest
        rintro ⟨_, hhead⟩
        exact absurd (head?_commentRest pad rest '/' hhead) (by decide)
      · rintro ⟨hlast, _⟩
        exact hstar (List.mem_of_getLast? hlast)

/-- A comment is written without further end marks. -/
theorem noEnd_commentBody {t : Text} (h : Lexeme.NoEnd t) :
    Lexeme.NoEnd (commentBody pad t) := by
  have hparts : ∀ line ∈ Writer.commentParts t, Lexeme.NoEnd line :=
    fun line hline => h.of_infix (Writer.infix_of_mem_commentParts hline)
  unfold commentBody
  split
  · exact Lexeme.noEnd_nil
  · rename_i first rest heq
    rw [heq] at hparts
    apply (hparts first List.mem_cons_self).append
    · exact noEnd_commentRest hpad fun l hl => hparts l (List.mem_cons_of_mem first hl)
    · rintro ⟨_, hhead⟩
      exact absurd (head?_commentRest pad rest '/' hhead) (by decide)

end Pad

/-!
# Outlines
-/

/-- The lines of a text without the carriage returns at their ends, and all but the first
without the blanks at their start. -/
def Text.outline (t : Text) : List Text :=
  match lines t with
  | [] => []
  | first :: more => trimReturns first :: more.map fun line => trimStart (trimReturns line)

theorem trimStart_gutter (last : Bool) (line : Text) :
    Text.trimStart (Writer.gutter last line) = Text.trimStart line := by
  have hidem : Text.trimStart (Text.trimStart line) = Text.trimStart line :=
    List.dropWhile_idempotent _ _
  have hspace : Text.trimStart (' ' :: Text.trimStart line) = Text.trimStart line :=
    (List.dropWhile_cons_of_pos (by decide)).trans hidem
  unfold Writer.gutter
  dsimp only
  split
  · exact hspace
  · exact hidem

theorem notMem_gutter {line : Text} (h : '\n' ∉ line) (last : Bool) :
    '\n' ∉ Writer.gutter last line := by
  have hbody : '\n' ∉ Text.trimStart line := by
    intro hn
    exact h ((Text.trimStart_suffix line).subset hn)
  unfold Writer.gutter
  dsimp only
  split
  · simp [hbody]
  · exact hbody

/-- Two texts up to the first line feed. -/
theorem append_inj_of_newline {s t r r' : Text} (hs : '\n' ∉ s) (ht : '\n' ∉ t)
    (hr : ∀ c ∈ r.head?, c = '\n') (hr' : ∀ c ∈ r'.head?, c = '\n')
    (h : s ++ r = t ++ r') : s = t ∧ r = r' := by
  apply Text.append_inj_of_span (p := fun c => c != '\n') _ _ _ _ h
  · intro c hc
    simp only [bne_iff_ne]
    rintro rfl
    exact hs hc
  · intro c hc
    simp only [bne_iff_ne]
    rintro rfl
    exact ht hc
  · intro c hc
    simp [hr c hc]
  · intro c hc
    simp [hr' c hc]

theorem commentRest_inj {pad : Text} {ls ls' : List Text} (hls : ∀ line ∈ ls, '\n' ∉ line)
    (hls' : ∀ line ∈ ls', '\n' ∉ line) (h : commentRest pad ls = commentRest pad ls') :
    ls.map Text.trimStart = ls'.map Text.trimStart := by
  induction ls generalizing ls' with
  | nil =>
      cases ls' with
      | nil =>
          rfl
      | cons line' rest' =>
          cases h
  | cons line rest ih =>
      cases ls' with
      | nil =>
          cases h
      | cons line' rest' =>
          rw [commentRest, commentRest, List.append_assoc, List.append_assoc] at h
          rcases append_inj_of_newline (notMem_gutter (hls line List.mem_cons_self) _)
            (notMem_gutter (hls' line' List.mem_cons_self) _) (head?_commentRest pad rest)
            (head?_commentRest pad rest') (List.append_cancel_left h) with ⟨hline, hrest⟩
          have htrim := congrArg Text.trimStart hline
          rw [trimStart_gutter, trimStart_gutter] at htrim
          rw [List.map_cons, List.map_cons, htrim,
            ih (fun l hl => hls l (List.mem_cons_of_mem line hl))
              (fun l hl => hls' l (List.mem_cons_of_mem line' hl)) hrest]

/-- A written comment determines the outline of its text. -/
theorem commentBody_inj {pad t t' : Text} (h : commentBody pad t = commentBody pad t') :
    t.outline = t'.outline := by
  have hparts := fun line (hline : line ∈ Writer.commentParts t) =>
    Writer.notMem_commentParts hline
  have hparts' := fun line (hline : line ∈ Writer.commentParts t') =>
    Writer.notMem_commentParts hline
  rcases Text.lines_spec t with ⟨first, more, hlines, _⟩
  rcases Text.lines_spec t' with ⟨first', more', hlines', _⟩
  simp only [commentBody, Writer.commentParts, hlines, hlines', List.map_cons] at h
  simp only [Writer.commentParts, hlines, List.map_cons, List.forall_mem_cons] at hparts
  simp only [Writer.commentParts, hlines', List.map_cons, List.forall_mem_cons] at hparts'
  rcases append_inj_of_newline hparts.1 hparts'.1 (head?_commentRest pad _)
    (head?_commentRest pad _) h with ⟨hfirst, hrest⟩
  have hmore := commentRest_inj hparts.2 hparts'.2 hrest
  rw [List.map_map, List.map_map] at hmore
  simp only [Text.outline, hlines, hlines', hfirst]
  exact congrArg _ hmore

end ComponentDecl
