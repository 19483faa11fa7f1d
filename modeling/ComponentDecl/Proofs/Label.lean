import ComponentDecl.Proofs.Position
import ComponentDecl.Report

/-!
# Labels of reports

Spans count bytes and labels of reports count characters.  A label stands under the
characters that its span covers, if the span is one of the source, and in any case under at
least one place that begins no later than the source ends.
-/

namespace ComponentDecl

/-!
# Places between characters
-/

/-- Whether the first `n` bytes of a text are whole characters. -/
def Text.IsBoundary (t : Text) (n : Nat) : Prop :=
  ∃ before after, t = before ++ after ∧ bytes before = n

theorem charsIn?_eq (t : Text) (n : Nat) :
    charsIn? t n = (Text.cut? n t).map fun p => p.1.length := by
  induction t generalizing n with
  | nil =>
      cases n <;> rfl
  | cons c rest ih =>
      cases n with
      | zero =>
          rfl
      | succ n =>
          simp only [charsIn?, Text.cut?]
          split
          · rw [ih]
            cases Text.cut? (n + 1 - c.utf8Size) rest <;> rfl
          · rfl

/-- Behind a part of the text there are as many characters as the part has. -/
theorem charOffset_append (before after : Text) :
    charOffset (before ++ after) (Text.bytes before) = before.length := by
  have hcut : Text.cut? (Text.bytes before) (before ++ after) = some (before, after) :=
    Text.cut?_eq_some.mpr ⟨rfl, rfl⟩
  rw [charOffset, charsIn?_eq, hcut]
  rfl

theorem charOffset_le (source : Text) (n : Nat) : charOffset source n ≤ source.length := by
  rw [charOffset, charsIn?_eq]
  cases hcut : Text.cut? n source with
  | none =>
      exact Nat.le_refl _
  | some p =>
      rcases Text.cut?_eq_some.mp hcut with ⟨hsource, _⟩
      simp [hsource]

/-- The shorter of two parts from the start is a part of the longer. -/
theorem Text.IsBoundary.between {t : Text} {a b : Nat} (ha : t.IsBoundary a)
    (hb : t.IsBoundary b) (hab : a ≤ b) :
    ∃ before stretch after, t = before ++ stretch ++ after ∧ bytes before = a ∧
      bytes before + bytes stretch = b := by
  rcases ha with ⟨before, rest, rfl, rfl⟩
  rcases hb with ⟨longer, after, hsplit, rfl⟩
  rcases List.append_eq_append_iff.mp hsplit with ⟨stretch, rfl, rfl⟩ | ⟨excess, rfl, rfl⟩
  · exact ⟨before, stretch, after, by simp, rfl, by simp⟩
  · have hexcess : excess = [] := by
      cases excess with
      | nil =>
          rfl
      | cons c excess =>
          have hpos := Char.utf8Size_pos c
          simp only [bytes_append, bytes_cons] at hab
          omega
    subst hexcess
    exact ⟨longer, [], rest, by simp, by simp, by simp⟩

theorem charOffset_strictMono {source : Text} {a b : Nat} (ha : source.IsBoundary a)
    (hb : source.IsBoundary b) (hab : a < b) : charOffset source a < charOffset source b := by
  rcases ha.between hb (Nat.le_of_lt hab) with ⟨before, stretch, after, rfl, rfl, rfl⟩
  have hne : stretch ≠ [] := by
    rintro rfl
    simp at hab
  have hlength := List.length_pos_iff.mpr hne
  have hstart := charOffset_append before (stretch ++ after)
  have hstop := charOffset_append (before ++ stretch) after
  rw [← List.append_assoc] at hstart
  rw [Text.bytes_append] at hstop
  rw [hstart, hstop, List.length_append]
  omega

/-!
# The label
-/

namespace ParseError

theorem labelRange_of_span {source : Text} {e : ParseError} {s : Span} (h : e.span? = some s) :
    e.labelRange source = (charOffset source s.start,
      max (charOffset source s.stop) (charOffset source s.start + 1)) := by
  simp [labelRange, h]

theorem labelRange_bounds (source : Text) (e : ParseError) :
    (e.labelRange source).1 < (e.labelRange source).2 ∧
      (e.labelRange source).1 ≤ source.length := by
  cases h : e.span? with
  | none =>
      simp only [labelRange, h]
      omega
  | some s =>
      have hstart := charOffset_le source s.start
      rw [labelRange_of_span h]
      simp only
      omega

/-- A label from `first` to before `last` stands under the characters of the source that the
span covers.  A span of nothing is shown by one place. -/
structure LabelCovers (source : Text) (s : Span) (first last : Nat) (stretch : Text) : Prop where
  slice : Text.slice? source s.start s.stop = some stretch
  chars : (source.drop first).take stretch.length = stretch
  stop : last = if stretch = [] then first + 1 else first + stretch.length

theorem labelCovers {source : Text} {e : ParseError} {s : Span} (h : e.span? = some s)
    (hle : s.start ≤ s.stop) (hstart : source.IsBoundary s.start)
    (hstop : source.IsBoundary s.stop) :
    ∃ stretch, LabelCovers source s (e.labelRange source).1 (e.labelRange source).2 stretch := by
  rcases hstart.between hstop hle with ⟨before, stretch, after, hsource, hfirst, hlast⟩
  have hslice : Text.slice? source s.start s.stop = some stretch :=
    Text.slice?_eq_some.mpr ⟨before, after, hsource, hfirst, hlast⟩
  have hoffset : charOffset source s.start = before.length := by
    rw [hsource, List.append_assoc, ← hfirst]
    exact charOffset_append before (stretch ++ after)
  have hoffset' : charOffset source s.stop = before.length + stretch.length := by
    rw [hsource, ← hlast, ← Text.bytes_append, charOffset_append, List.length_append]
  refine ⟨stretch, hslice, ?_, ?_⟩
  · rw [labelRange_of_span h, hoffset, hsource, List.append_assoc]
    simp
  · rw [labelRange_of_span h, hoffset, hoffset']
    split
    · rename_i hnil
      simp [hnil]
    · rename_i hne
      have hpos := List.length_pos_iff.mpr hne
      show max (before.length + stretch.length) (before.length + 1) = _
      omega

end ParseError

/-- The label of a report stands under the text that the span of the error covers: bytes
are turned into characters without loss wherever the span lies between characters. -/
theorem label_stands_under_span (source : Text) (e : ParseError) :
    (e.labelRange source).1 < (e.labelRange source).2 ∧
      (e.labelRange source).1 ≤ source.length ∧
      (∀ name, e.report name source = Report.render e.message name source
        ⟨(e.labelRange source).1, (e.labelRange source).2, e.label⟩) ∧
      (∀ s, e.span? = some s → s.start ≤ s.stop → source.IsBoundary s.start →
        source.IsBoundary s.stop →
        ∃ stretch, ParseError.LabelCovers source s (e.labelRange source).1
          (e.labelRange source).2 stretch) ∧
      ∀ a b, source.IsBoundary a → source.IsBoundary b → a < b →
        charOffset source a < charOffset source b := by
  rcases e.labelRange_bounds source with ⟨hlt, hle⟩
  refine ⟨hlt, hle, ?_, ?_, ?_⟩
  · intro name
    rfl
  · intro s hs hordered hstart hstop
    exact ParseError.labelCovers hs hordered hstart hstop
  · intro a b ha hb hab
    exact charOffset_strictMono ha hb hab

/-- A source of characters of one, two and four bytes. -/
def unevenSource : Text := "aé𝄞b"

theorem label_stands_under_span_uneven :
    unevenSource.IsBoundary 3 ∧ unevenSource.IsBoundary 7 ∧
      (∃ stretch, ParseError.LabelCovers unevenSource ⟨3, 7, 1, 4⟩ 2 3 stretch) ∧
      charOffset unevenSource 3 < charOffset unevenSource 7 := by
  have hfirst : unevenSource.IsBoundary 3 := ⟨['a', 'é'], ['𝄞', 'b'], by decide, by decide⟩
  have hlast : unevenSource.IsBoundary 7 := ⟨['a', 'é', '𝄞'], ['b'], by decide, by decide⟩
  have hrange : (ParseError.invalidSyntax ⟨3, 7, 1, 4⟩ []).labelRange unevenSource = (2, 3) := by
    decide
  rcases label_stands_under_span unevenSource (.invalidSyntax ⟨3, 7, 1, 4⟩ []) with
    ⟨_, _, _, hcovers, hmono⟩
  refine ⟨hfirst, hlast, ?_, hmono 3 7 hfirst hlast (by decide)⟩
  rw [hrange] at hcovers
  exact hcovers _ rfl (by decide) hfirst hlast

end ComponentDecl
