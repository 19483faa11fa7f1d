import ComponentDecl.Parse.Class
import ComponentDecl.Parse.Markup
import ComponentDecl.Proofs.Quoted
import Mathlib.Data.List.Infix
import Mathlib.Data.List.DropRight

/-!
# What the scanners take

A scanner cuts the text in two: the lexeme it returns, or the trees it makes of it, and the
rest.  Nothing of the text is lost, and nothing is added to it.
-/

namespace ComponentDecl
namespace Lexeme

/-!
# Trivia
-/

theorem htmlComment?_takes {t c rest : Text} (h : htmlComment? t = some (c, rest)) :
    t = c ++ rest := by
  unfold htmlComment? at h
  split at h
  · exact (Text.span_eq_iff.mp (Option.some.inj h)).1
  · cases h

theorem commentAhead?_takes {html : Bool} {t rest : Text} {trees : List Tree}
    (h : commentAhead? html t = some (trees, rest)) : t = Tree.textAll trees ++ rest := by
  cases hhtml : (if html then htmlComment? (t.span fun c => isSpace c || isSeparator c).2
      else none) with
  | some m =>
      rcases m with ⟨c, more⟩
      have hsome : htmlComment? (t.span fun c => isSpace c || isSeparator c).2 = some (c, more) := by
        split at hhtml
        · exact hhtml
        · cases hhtml
      simp only [commentAhead?, hhtml] at h
      rcases Prod.mk.inj (Option.some.inj h) with ⟨rfl, rfl⟩
      simp only [Tree.textAll_append, textAll_gap, Tree.textAll, Tree.text, List.append_nil,
        List.append_assoc]
      rw [← htmlComment?_takes hsome]
      exact (Text.span_spec _ t).1
  | none =>
      have hplain : commentAhead? false t = some (trees, rest) := by
        simp only [commentAhead?, hhtml] at h
        exact h
      exact (commentAhead?_spec hplain).1

theorem triviaWithin_takes (html : Bool) (fuel : Nat) (t : Text) :
    t = Tree.textAll (triviaWithin html fuel t).1 ++ (triviaWithin html fuel t).2 := by
  induction fuel generalizing t with
  | zero =>
      rfl
  | succ fuel ih =>
      unfold triviaWithin
      split
      · rename_i trees rest hcomment
        rw [commentAhead?_takes hcomment]
        simp only [Tree.textAll_append, List.append_assoc]
        rw [← ih rest]
      · simp only [textAll_gap]
        exact (Text.span_spec isGap t).1

theorem trivia_takes (html : Bool) (t : Text) :
    t = Tree.textAll (trivia html t).1 ++ (trivia html t).2 :=
  triviaWithin_takes html _ t

/-!
# Words and numbers
-/

theorem wordTail_takes (fuel : Nat) (t : Text) :
    t = (wordTail fuel t).1 ++ (wordTail fuel t).2 := by
  fun_induction wordTail fuel t with
  | case1 t =>
      rfl
  | case2 fuel =>
      rfl
  | case3 fuel c rest hc more rest' heq ih =>
      simpa [heq] using ih
  | case4 fuel c rest hc e rest' he more rest'' heq ih =>
      rw [(unicodeEscape?_spec he).1]
      simpa [heq] using ih
  | case5 fuel c rest hc he =>
      rfl

theorem word?_takes {t w rest : Text} (h : word? t = some (w, rest)) : t = w ++ rest := by
  unfold word? at h
  split at h
  · cases h
  · rename_i c tail
    split at h
    · rcases Prod.mk.inj (Option.some.inj h) with ⟨rfl, rfl⟩
      rw [List.cons_append, ← wordTail_takes]
    · rcases Option.map_eq_some_iff.mp h with ⟨⟨e, tail'⟩, he, hw⟩
      rcases Prod.mk.inj hw with ⟨rfl, rfl⟩
      rw [List.append_assoc, ← wordTail_takes]
      exact (unicodeEscape?_spec he).1

theorem privateName?_takes {t n rest : Text} (h : privateName? t = some (n, rest)) :
    t = n ++ rest := by
  unfold privateName? at h
  split at h
  · rcases Option.map_eq_some_iff.mp h with ⟨⟨w, r⟩, hw, heq⟩
    rcases Prod.mk.inj heq with ⟨rfl, rfl⟩
    rw [word?_takes hw]
    rfl
  · cases h

theorem hyphenated?_takes {t w rest : Text} (h : hyphenated? t = some (w, rest)) :
    t = w ++ rest := by
  unfold hyphenated? at h
  split at h
  · rename_i c tail
    dsimp only at h
    split at h
    · split at h
      · rename_i after hafter
        rcases Prod.mk.inj (Option.some.inj h) with ⟨rfl, rfl⟩
        simp only [List.cons_append, List.append_assoc, List.cons.injEq, true_and]
        rw [← (Text.span_spec _ after).1, ← hafter]
        exact (Text.span_spec _ tail).1
      · cases h
    · cases h
  · cases h

theorem prefix_append_drop {s u t : Text} (hs : s <+: t) (hu : u <+: t.drop s.length) :
    s ++ u <+: t := by
  rcases hs with ⟨r, rfl⟩
  rw [List.drop_left] at hu
  exact (List.prefix_append_right_inj s).mpr hu

theorem moreDigits_isPrefix (p : Char → Bool) (t : Text) : moreDigits p t <+: t := by
  fun_induction moreDigits p t with
  | case1 c rest hc ih =>
      simpa [List.cons_prefix_cons] using ih
  | case2 c rest hc =>
      exact List.nil_prefix
  | case3 c rest hne hc ih =>
      simpa [List.cons_prefix_cons] using ih
  | case4 c rest hne hc =>
      exact List.nil_prefix
  | case5 =>
      exact List.nil_prefix

theorem digits_isPrefix (p : Char → Bool) (t : Text) : digits p t <+: t := by
  unfold digits
  split
  · split
    · exact (List.prefix_cons_inj _).mpr (moreDigits_isPrefix p _)
    · exact List.nil_prefix
  · exact List.nil_prefix

theorem based_isPrefix (low high : Char) (p : Char → Bool) (t : Text) :
    based low high p t <+: t := by
  unfold based
  split
  · rename_i m rest
    split
    · split
      · exact List.nil_prefix
      · simpa [List.cons_prefix_cons] using digits_isPrefix p rest
    · exact List.nil_prefix
  · exact List.nil_prefix

theorem exponent_isPrefix (t : Text) : exponent t <+: t := by
  unfold exponent
  split
  · rename_i e rest
    split
    · split
      · rename_i s more
        split
        · split
          · exact List.nil_prefix
          · simpa [List.cons_prefix_cons] using digits_isPrefix isDigit more
        · split
          · exact List.nil_prefix
          · exact (List.prefix_cons_inj e).mpr (digits_isPrefix isDigit (s :: more))
      · exact List.nil_prefix
    · exact List.nil_prefix
  · exact List.nil_prefix

/-- Digits behind a point, and an exponent behind them. -/
theorem point_isPrefix (rest : Text) :
    '.' :: digits isDigit rest ++ exponent (rest.drop (digits isDigit rest).length) <+:
      '.' :: rest :=
  (List.prefix_cons_inj '.').mpr
    (prefix_append_drop (digits_isPrefix isDigit rest) (exponent_isPrefix _))

theorem fraction_isPrefix (t : Text) : fraction t <+: t := by
  unfold fraction
  split
  · exact point_isPrefix _
  · exact exponent_isPrefix _

theorem decimal_isPrefix (t : Text) : decimal t <+: t := by
  unfold decimal
  split
  · split
    · split
      · exact List.nil_prefix
      · exact point_isPrefix _
    · exact List.nil_prefix
  · dsimp only
    split
    · exact prefix_append_drop (digits_isPrefix isDigit t) (fraction_isPrefix _)
    · exact digits_isPrefix isDigit t

theorem withBigMark_isPrefix {numeral t : Text} (h : numeral <+: t) :
    withBigMark numeral t <+: t := by
  unfold withBigMark
  split
  · rename_i rest hrest
    refine prefix_append_drop h ?_
    rw [hrest]
    exact (List.prefix_cons_inj 'n').mpr List.nil_prefix
  · exact h

theorem longer_isPrefix {s u t : Text} (hs : s <+: t) (hu : u <+: t) : longer s u <+: t :=
  of_longer (P := (· <+: t)) hs hu

theorem number?_takes {t n rest : Text} (h : number? t = some (n, rest)) : t = n ++ rest := by
  unfold number? at h
  dsimp only at h
  split at h
  · cases h
  · rcases Prod.mk.inj (Option.some.inj h) with ⟨rfl, rfl⟩
    refine (List.prefix_iff_eq_append.mp ?_).symm
    simp only [List.foldl_cons, List.foldl_nil]
    -- every form of numeral is a prefix of the text, and so is the longest of them
    apply longer_isPrefix
    · apply longer_isPrefix
      · apply longer_isPrefix
        · apply longer_isPrefix
          · exact decimal_isPrefix t
          · exact withBigMark_isPrefix (based_isPrefix _ _ _ t)
        · exact withBigMark_isPrefix (based_isPrefix _ _ _ t)
      · exact withBigMark_isPrefix (based_isPrefix _ _ _ t)
    · exact withBigMark_isPrefix (digits_isPrefix isDigit t)

/-!
# Strings, templates and regular expressions
-/

theorem string?_takes {t rest : Text} {tree : Tree} (h : string? t = some (tree, rest)) :
    t = tree.text ++ rest := by
  rcases string?_eq_some h with ⟨q, trees, tail, _, rfl, htail, rfl⟩
  simp [Tree.text, Tree.textAll, htail.text_eq]

/-- A plain stretch of a template literal ends before a substitution, not before a dollar
sign alone. -/
theorem templateChars?_takes {t u rest : Text} (h : templateChars? t = some (u, rest)) :
    t = u ++ rest ∧ ∀ more, rest = '$' :: more → more.head? = some '{' := by
  fun_induction templateChars? t generalizing u with
  | case1 =>
      cases h
  | case2 tail =>
      rcases Prod.mk.inj (Option.some.inj h) with ⟨rfl, rfl⟩
      refine ⟨rfl, ?_⟩
      intro more hmore
      rw [← (List.cons.inj hmore).2]
      rfl
  | case3 c tail hne hc =>
      rcases Prod.mk.inj (Option.some.inj h) with ⟨rfl, rfl⟩
      refine ⟨rfl, ?_⟩
      intro more hmore
      rw [(List.cons.inj hmore).1] at hc
      exact absurd hc (by decide)
  | case4 c tail hne hc hzero =>
      cases h
  | case5 c tail hne hc hzero ih =>
      rcases Option.map_eq_some_iff.mp h with ⟨⟨v, r⟩, hv, heq⟩
      rcases Prod.mk.inj heq with ⟨rfl, rfl⟩
      rcases ih hv with ⟨htail, hdollar⟩
      exact ⟨by rw [htail]; rfl, hdollar⟩

theorem classTail_takes {t u rest : Text} (h : classTail t = some (u, rest)) :
    t = u ++ rest := by
  fun_induction classTail t generalizing u with
  | case1 =>
      cases h
  | case2 tail =>
      rcases Prod.mk.inj (Option.some.inj h) with ⟨rfl, rfl⟩
      rfl
  | case3 =>
      cases h
  | case4 c tail hc ih =>
      rcases Option.map_eq_some_iff.mp h with ⟨⟨v, r⟩, hv, heq⟩
      rcases Prod.mk.inj heq with ⟨rfl, rfl⟩
      rw [ih hv]
      rfl
  | case5 =>
      cases h
  | case6 c tail _ _ hc ih =>
      rcases Option.map_eq_some_iff.mp h with ⟨⟨v, r⟩, hv, heq⟩
      rcases Prod.mk.inj heq with ⟨rfl, rfl⟩
      rw [ih hv]
      rfl

theorem patternWithin_takes (fuel : Nat) (t : Text) :
    t = (patternWithin fuel t).1 ++ (patternWithin fuel t).2 := by
  fun_induction patternWithin fuel t with
  | case1 t =>
      rfl
  | case2 fuel =>
      rfl
  | case3 fuel tail e rest he more rest' heq ih =>
      rw [classTail_takes he]
      simpa [heq] using ih
  | case4 fuel tail he =>
      rfl
  | case5 fuel c tail hc =>
      rfl
  | case6 fuel c tail hc more rest heq ih =>
      simpa [heq] using ih
  | case7 fuel c tail _ _ hc =>
      rfl
  | case8 fuel c tail _ _ hc more rest heq ih =>
      simpa [heq] using ih

theorem regexFlags_takes (t : Text) :
    t = Tree.textAll (regexFlags t).1 ++ (regexFlags t).2 := by
  unfold regexFlags
  dsimp only
  split
  · rfl
  · simp only [Tree.textAll, Tree.text, List.append_nil]
    exact (Text.span_spec _ t).1

theorem lateFlags?_takes {t rest : Text} {trees : List Tree}
    (h : lateFlags? t = some (trees, rest)) : t = Tree.textAll trees ++ rest := by
  unfold lateFlags? at h
  dsimp only at h
  split at h
  · rename_i flag flags r _ hflags
    rcases Prod.mk.inj (Option.some.inj h) with ⟨rfl, rfl⟩
    have htext := regexFlags_takes (trivia false t).2
    rw [hflags] at htext
    rw [Tree.textAll_append, List.append_assoc, ← htext]
    exact trivia_takes false t
  · cases h

theorem regex?_takes {t rest : Text} {tree : Tree} (h : regex? t = some (tree, rest)) :
    t = tree.text ++ rest := by
  unfold regex? at h
  split at h
  · rename_i tail
    split at h
    · cases h
    · split at h
      · rename_i c cs after hpattern
        split at h
        rename_i between close hpair
        have hafter : after = Tree.textAll between ++ close := by
          split at hpair
          · rcases Prod.mk.inj hpair with ⟨rfl, rfl⟩
            rfl
          · split at hpair
            rename_i trees rest' htrivia
            have htext := trivia_takes false after
            rw [htrivia] at htext
            split at hpair
            · rcases Prod.mk.inj hpair with ⟨rfl, rfl⟩
              exact htext
            · rcases Prod.mk.inj hpair with ⟨rfl, rfl⟩
              rfl
        have htail := patternWithin_takes (tail.length + 1) tail
        rw [hpattern, hafter] at htail
        split at h
        · rename_i more
          split at h
          rename_i flags more' hflags
          have hmore := regexFlags_takes more
          rw [hflags] at hmore
          rcases Prod.mk.inj (Option.some.inj h) with ⟨rfl, rfl⟩
          rw [htail, hmore]
          simp [Tree.text, Tree.textAll, Tree.textAll_append]
        · cases h
      · cases h
  · cases h

/-!
# Markup
-/

theorem span_isPrefix (p : Char → Bool) (t : Text) : (t.span p).1 <+: t :=
  ⟨(t.span p).2, (Text.span_spec p t).1.symm⟩

theorem referenceTail_takes {p : Char → Bool} {most : Nat} {t u rest : Text}
    (h : referenceTail p most t = some (u, rest)) : t = u ++ rest := by
  unfold referenceTail at h
  split at h
  rename_i ds after hspan
  split at h
  · split at h
    · rcases Prod.mk.inj (Option.some.inj h) with ⟨rfl, rfl⟩
      simpa using (Text.span_eq_iff.mp hspan).1
    · cases h
  · cases h

theorem map_referenceTail_takes (head : Text) {t u rest : Text} {p : Char → Bool} {most : Nat}
    (h : (referenceTail p most t).map (fun m => (head ++ m.1, m.2)) = some (u, rest)) :
    head ++ t = u ++ rest := by
  rcases Option.map_eq_some_iff.mp h with ⟨⟨v, r⟩, hv, heq⟩
  rcases Prod.mk.inj heq with ⟨rfl, rfl⟩
  rw [referenceTail_takes hv, List.append_assoc]

theorem reference?_takes {t u rest : Text} (h : reference? t = some (u, rest)) :
    t = u ++ rest := by
  unfold reference? at h
  split at h
  · exact map_referenceTail_takes ['&', '#', 'x'] h
  · exact map_referenceTail_takes ['&', '#', 'X'] h
  · exact map_referenceTail_takes ['&', '#'] h
  · exact map_referenceTail_takes ['&'] h
  · cases h

theorem attributeChars_takes (q : Char) (t : Text) :
    t = (attributeChars q t).1 ++ (attributeChars q t).2 := by
  fun_induction attributeChars q t with
  | case1 =>
      rfl
  | case2 =>
      rfl
  | case3 c tail hc =>
      rfl
  | case4 c tail hc more rest heq ih =>
      simpa [heq] using ih
  | case5 c tail _ _ hc =>
      rfl
  | case6 c tail _ _ hc more rest heq ih =>
      simpa [heq] using ih

theorem attributeTail_takes {q : Char} {fuel : Nat} {t rest : Text} {trees : List Tree}
    (h : attributeTail q fuel t = some (trees, rest)) : t = Tree.textAll trees ++ rest := by
  fun_induction attributeTail q fuel t generalizing trees with
  | case1 t =>
      cases h
  | case2 fuel t blank after hspan e tail he ih =>
      rcases Option.map_eq_some_iff.mp h with ⟨⟨more, r⟩, hmore, heq⟩
      rcases Prod.mk.inj heq with ⟨rfl, rfl⟩
      rw [(Text.span_eq_iff.mp hspan).1, reference?_takes he, ih hmore]
      simp [Tree.text, Tree.textAll]
  | case3 fuel t blank after hspan he c tail hchars hc =>
      rcases Prod.mk.inj (Option.some.inj h) with ⟨rfl, rfl⟩
      have ht := attributeChars_takes q t
      rw [hchars] at ht
      simpa [Tree.text, Tree.textAll, beq_iff_eq.mp hc] using ht
  | case4 =>
      cases h
  | case5 =>
      cases h
  | case6 fuel t blank after hspan he plain tail _ _ hchars ih =>
      rcases Option.map_eq_some_iff.mp h with ⟨⟨more, r⟩, hmore, heq⟩
      rcases Prod.mk.inj heq with ⟨rfl, rfl⟩
      have ht := attributeChars_takes q t
      rw [hchars] at ht
      rw [ht, ih hmore]
      simp [Tree.text, Tree.textAll]

theorem attributeString?_takes {t rest : Text} {tree : Tree}
    (h : attributeString? t = some (tree, rest)) : t = tree.text ++ rest := by
  unfold attributeString? at h
  split at h
  · split at h
    · rcases Option.map_eq_some_iff.mp h with ⟨⟨more, r⟩, hmore, heq⟩
      rcases Prod.mk.inj heq with ⟨rfl, rfl⟩
      rw [attributeTail_takes hmore]
      rfl
    · cases h
  · cases h

theorem markupMark?_takes {space t text rest : Text} {sort : MarkupSort}
    (h : markupMark? space t = some (sort, text, rest)) : space ++ t = text ++ rest := by
  unfold markupMark? at h
  split at h
  · cases h
    simp
  · cases h
    simp
  · cases h
    simp
  · rcases Option.map_eq_some_iff.mp h with ⟨⟨r, after⟩, hr, heq⟩
    cases heq
    rw [reference?_takes hr, List.append_assoc]

theorem markupLexeme?_takes {t text rest : Text} {sort : MarkupSort}
    (h : markupLexeme? t = some (sort, text, rest)) : t = text ++ rest := by
  have hplain := (Text.span_spec (fun c => !isMarkupMark c) t).1
  have hspace := (Text.span_spec isGap t).1
  unfold markupLexeme? at h
  dsimp only at h
  split at h
  · cases h
    have hline : ((t.span isGap).1.span (· != '\n')).1 <+: t :=
      (span_isPrefix _ _).trans (span_isPrefix _ _)
    exact (List.prefix_iff_eq_append.mp hline).symm
  · split at h
    · split at h
      · rename_i c more hc
        split at h
        · cases h
          rw [List.append_assoc, ← (comment?_spec hc).1]
          exact hspace
        · cases h
          exact hplain
      · cases h
        exact hplain
    · rw [← markupMark?_takes h]
      exact hspace

end Lexeme

namespace Parse

open Lexeme

theorem childComment?_takes {t rest : Text} {i : Item} (h : childComment? t = some (i, rest)) :
    t = Tree.textAll i.lead ++ Tree.textAll i.body ++ rest := by
  rcases Option.map_eq_some_iff.mp h with ⟨⟨c, r⟩, hc, heq⟩
  rcases Prod.mk.inj heq with ⟨rfl, rfl⟩
  simp only [textAll_gap, Tree.textAll, Tree.text, List.append_nil, List.append_assoc]
  rw [← htmlComment?_takes hc]
  exact (Text.span_spec _ t).1

theorem templateContent_takes {fuel : Nat} {t rest : Text} {trees : List Tree}
    (h : templateContent fuel t = some (trees, rest)) : t = Tree.textAll trees ++ rest := by
  fun_induction templateContent fuel t generalizing trees with
  | case1 t =>
      cases h
  | case2 fuel t space beyond hspan c tail hc ih =>
      rcases Option.map_eq_some_iff.mp h with ⟨⟨more, r⟩, hmore, heq⟩
      rcases Prod.mk.inj heq with ⟨rfl, rfl⟩
      rw [(Text.span_eq_iff.mp hspan).1, htmlComment?_takes hc, ih hmore]
      simp [Tree.text, Tree.textAll, Tree.textAll_append]
  | case3 fuel t space beyond hspan hhtml blank after hblank c tail hc ih =>
      rcases Option.map_eq_some_iff.mp h with ⟨⟨more, r⟩, hmore, heq⟩
      rcases Prod.mk.inj heq with ⟨rfl, rfl⟩
      rw [(Text.span_eq_iff.mp hblank).1, (comment?_spec hc).1, ih hmore]
      simp [Tree.text, Tree.textAll]
  | case4 fuel t space beyond hspan hhtml blank after hblank tail htail hc =>
      rcases Prod.mk.inj (Option.some.inj h) with ⟨rfl, rfl⟩
      rw [(Text.span_eq_iff.mp hblank).1, Text.strip?_eq_some.mp htail]
      simp [Tree.text, Tree.textAll]
  | case5 =>
      cases h
  | case6 fuel space beyond hhtml blank after htail hcomment c tail hspan hblank ih =>
      rcases Option.map_eq_some_iff.mp h with ⟨⟨more, r⟩, hmore, heq⟩
      rcases Prod.mk.inj heq with ⟨rfl, rfl⟩
      rw [ih hmore]
      rfl

theorem staticGet?_takes {t w rest : Text} (h : staticGet? t = some (w, rest)) :
    t = w ++ rest := by
  unfold staticGet? at h
  rcases Option.bind_eq_some_iff.mp h with ⟨tail, htail, h⟩
  dsimp only at h
  split at h
  · cases h
  · rcases Option.bind_eq_some_iff.mp h with ⟨after, hafter, h⟩
    have hspace := (Text.span_spec isSpace tail).1
    have hblank := (Text.span_spec isSpace after).1
    split at h
    · cases h
    · rcases Prod.mk.inj (Option.some.inj h) with ⟨rfl, rfl⟩
      -- the blanks behind the last line end are left
      have hback := List.prefix_iff_eq_append.mp
        (List.rdropWhile_prefix (· != '\n') (after.span isSpace).1)
      rw [List.rdropWhile, List.length_reverse] at hback
      simp only [List.append_assoc]
      rw [← List.append_assoc (List.reverse _), hback, ← hblank, ← Text.strip?_eq_some.mp hafter,
        ← hspace, ← Text.strip?_eq_some.mp htail]

theorem insertedWithin_takes {operators : Bool} {fuel : Nat} {t rest : Text}
    {trees : List Tree} (h : insertedWithin operators fuel t = some (trees, rest)) :
    t = Tree.textAll trees ++ rest := by
  induction fuel generalizing t trees with
  | zero =>
      cases h
  | succ fuel ih =>
      unfold insertedWithin at h
      split at h
      · rcases Prod.mk.inj (Option.some.inj h) with ⟨rfl, rfl⟩
        rfl
      · split at h
        · rename_i first more hahead
          rcases Option.map_eq_some_iff.mp h with ⟨⟨further, r⟩, hm, heq⟩
          rcases Prod.mk.inj heq with ⟨rfl, rfl⟩
          rw [Tree.textAll_append, List.append_assoc, ← ih hm]
          exact commentAhead?_takes hahead
        · cases h

end Parse
end ComponentDecl
