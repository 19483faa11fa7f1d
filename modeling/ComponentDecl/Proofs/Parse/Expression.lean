import ComponentDecl.Proofs.Parse.ElementEnd

set_option mvcgen.warning false

/-!
# Sound expressions

Elements of markup, literals, functions and the operators that join expressions.
-/

namespace ComponentDecl
namespace Parse

open Std.Do

/-!
# Elements of markup
-/

@[spec] theorem markupName_sound (k : Kind) :
    Yields (markupName k) fun i =>
      (i.recast .identifier).Sound ∧ i.IsNode ∧ (k ∉ Item.nameless → i.Sound) := by
  apply yields_lexeme
  intro lead t tree rest hlead hscan
  rcases Option.map_eq_some_iff.mp hscan with ⟨⟨w, r⟩, hw, heq⟩
  rcases Prod.mk.inj heq with ⟨rfl, rfl⟩
  have hname : Lexeme.IsWord w := by
    cases hh : Lexeme.hyphenated? t with
    | none =>
        rw [hh] at hw
        exact Lexeme.word?_isWord hw
    | some m =>
        rw [hh] at hw
        obtain rfl : m = (w, r) := Option.some.inj hw
        exact Lexeme.hyphenated?_isWord hh
  have hword : Item.IsWord k ⟨lead, [.leaf none k w]⟩ := ⟨hlead, w, rfl, hname⟩
  exact ⟨(hword.recast .identifier).sound (by simp), hword.isNode, hword.sound⟩

@[spec] theorem nameMember_sound {i : Item} (hi : i.Sound) :
    Yields (nameMember i) fun j => ∀ i ∈ j, i.SoundNode := by
  unfold nameMember
  mvcgen <;> simp_all

@[spec] theorem elementName_sound : Yields elementName Item.Sound := by
  unfold elementName
  mvcgen <;> simp_all

@[spec] theorem closingTail_sound {o : Item} (ho : o.Sound) :
    Yields (closingTail o) Item.Sound := by
  unfold closingTail
  mvcgen <;> simp_all

theorem childComment?_sound {t : Text} {i : Item} {rest : Text}
    (h : childComment? t = some (i, rest)) : i.Sound := by
  rcases Option.map_eq_some_iff.mp h with ⟨m, _, heq⟩
  rcases Prod.mk.inj heq with ⟨rfl, rfl⟩
  exact Item.sound_single (Lexeme.gap_isTrivia _) (.leaf trivial)

theorem markupLexeme?_comment {t text rest : Text}
    (h : Lexeme.markupLexeme? t = some (.comment, text, rest)) : Lexeme.IsComment text := by
  unfold Lexeme.markupLexeme? at h
  dsimp only at h
  split at h
  · cases h
  · split at h
    · split at h
      · rename_i c more hc
        split at h
        · rcases Prod.mk.inj (Option.some.inj h) with ⟨_, htext⟩
          rcases Prod.mk.inj htext with ⟨rfl, _⟩
          exact Lexeme.isComment_append (Text.span_spec _ t).2.1 (Lexeme.comment?_isComment hc)
        · cases h
      · cases h
    · unfold Lexeme.markupMark? at h
      split at h
      · cases h
      · cases h
      · cases h
      · rcases Option.map_eq_some_iff.mp h with ⟨m, _, heq⟩
        cases heq

variable {g : Grammar} (hg : g.Sound)
include hg

@[spec] theorem bracedTail_sound {o : Item} (ho : o.Sound) :
    Yields (bracedTail g o) Item.Sound := by
  unfold bracedTail
  mvcgen <;> simp_all

@[spec] theorem braced_sound : Yields (braced g) Item.Sound := by
  unfold braced
  mvcgen <;> simp_all

@[spec] theorem attributeValue_sound : Yields (attributeValue g) Item.Sound := by
  unfold attributeValue
  mvcgen
  case vc5 =>
      intro _ t tree rest hscan
      exact Lexeme.attributeString?_sound hscan
  all_goals simp_all

@[spec] theorem elementAttribute_sound : Yields (elementAttribute g) Item.Sound := by
  unfold elementAttribute
  mvcgen <;> simp_all

@[spec] theorem elementTail_sound (fuel : Nat) : Yields (elementTail g fuel) Item.SoundAll := by
  induction fuel with
  | zero =>
      exact yields_failure _
  | succ fuel ih =>
      unfold elementTail
      mvcgen [ih]
      case vc1 =>
          rename_i hcomment _ _ more _ hmore
          exact Item.soundAll_cons.mpr ⟨childComment?_sound hcomment, hmore⟩
      case vc4 =>
          rename_i hlexeme _ _ leaf _ hsort more _ hmore
          rw [hsort] at hlexeme
          refine Item.soundAll_cons.mpr ⟨?_, hmore⟩
          exact Item.sound_alone.mpr (.leaf (markupLexeme?_comment hlexeme))
      all_goals simp_all +zetaDelta [Tree.LeafSound]

@[spec] theorem element_sound {o : Item} (ho : o.Sound) :
    Yields (element g o) Item.SoundNode := by
  unfold element
  mvcgen <;> simp_all +zetaDelta

/-!
# Literals
-/

@[spec] theorem templateTail_sound (fuel : Nat) :
    Yields (templateTail g fuel) Item.SoundAll := by
  induction fuel with
  | zero =>
      exact yields_failure _
  | succ fuel ih =>
      unfold templateTail
      mvcgen [ih] <;> simp_all +zetaDelta [Tree.LeafSound]

@[spec] theorem templateString_sound (html : Bool) :
    Yields (templateString g html) Item.SoundNode := by
  unfold templateString
  mvcgen
  simp_all

omit hg in
theorem soundNode_extended {i : Item} {tail : List Tree} (hi : i.SoundNode)
    (htail : ∀ t ∈ tail, t.Sound) :
    Item.SoundNode ⟨i.lead, i.body.map fun t => .branch t.field .regex (t.children ++ tail)⟩ := by
  rcases hi with ⟨hi, u, hbody, _⟩
  refine ⟨⟨hi.lead, ?_⟩, .branch u.field .regex (u.children ++ tail), by simp [hbody], rfl⟩
  intro t ht
  rcases List.mem_map.mp ht with ⟨u, hu, rfl⟩
  refine .branch trivial ?_
  intro c hc
  rcases List.mem_append.mp hc with hc | hc
  · exact (hi.body u hu).children c hc
  · exact htail c hc

omit hg in
@[spec] theorem regexLiteral_sound (s : Setting) : Yields (regexLiteral s) Item.SoundNode := by
  unfold regexLiteral
  mvcgen [-lexeme_sound, lexeme_soundNode]
  case vc1 =>
      intro t tree rest hscan
      exact ⟨Lexeme.regex?_sound hscan, Lexeme.regex?_isNamed hscan⟩
  case vc3 =>
      rename_i i _ hi _ _ _ _ _ _ _ hflags _ _
      exact soundNode_extended hi (Lexeme.lateFlags?_sound hflags)

@[spec] theorem array_open : Yields (array g) Item.OpenNode := by
  have hes : Yields (listed "]" (expressionOrSpread g .covering)) Item.OpenAll :=
    yields_listed (expressionOrSpread_open hg) fun _ hi => hi.sound.isOpen
  unfold array
  mvcgen [-listed_sound, hes]
  simp_all

omit hg in
@[simp] theorem open_pair {name colon value : Item} (hname : name.Sound) (hkey : name.IsKey)
    (hcolon : colon.IsToken) (hvalue : value.Open) (hnode : value.IsNode) :
    (Item.node .pair [name.inField .key, colon, value.inField .value]).Open := by
  have hall : Item.OpenAll [name.inField .key, colon, value.inField .value] := by
    simp [hname, hcolon.sound, hvalue]
  -- the colon and the trivia around it fill no field
  have hplace : ∀ t f, t.field = some f →
      t ∈ Item.inside [name.inField .key, colon, value.inField .value] →
      (f = .key ∧ t ∈ (name.inField .key).body) ∨
        (f = .value ∧ t ∈ (value.inField .value).body) := by
    intro t f hfield ht
    rcases Item.mem_inside hall.lead ht with htrivia | ⟨i, hi, hbody⟩
    · rw [htrivia.field_eq_none] at hfield
      cases hfield
    · simp only [List.mem_cons, List.not_mem_nil, or_false] at hi
      rcases hi with rfl | rfl | rfl
      · exact Or.inl ⟨Item.eq_of_mem_inField hbody hfield, hbody⟩
      · rcases hcolon.2 with ⟨s, hs⟩
        rw [hs] at hbody
        rcases List.mem_singleton.mp hbody with rfl
        cases hfield
      · exact Or.inr ⟨Item.eq_of_mem_inField hbody hfield, hbody⟩
  refine Item.open_node_of hall (.pair ⟨⟨?_, ?_⟩, ⟨?_, ?_⟩, ?_⟩ ?_ hall.inside)
  · rcases Item.exists_mem_inField_of_isNode hkey.isNode with ⟨t, ht, hfield⟩
    exact ⟨t, Item.mem_inside_of_mem_body (by simp) ht, hfield⟩
  · intro t ht hfield
    rcases hplace t .key hfield ht with ⟨_, hbody⟩ | ⟨hf, _⟩
    · exact Item.isNamed_of_mem_inField hkey.isNode hbody
    · cases hf
  · rcases Item.exists_mem_inField_of_isNode hnode with ⟨t, ht, hfield⟩
    exact ⟨t, Item.mem_inside_of_mem_body (by simp) ht, hfield⟩
  · intro t ht hfield
    rcases hplace t .value hfield ht with ⟨hf, _⟩ | ⟨_, hbody⟩
    · cases hf
    · exact Item.isNamed_of_mem_inField hnode hbody
  · intro t ht hfield
    rcases hplace t .key hfield ht with ⟨_, hbody⟩ | ⟨hf, _⟩
    · rcases List.mem_map.mp hbody with ⟨u, hu, rfl⟩
      exact (hkey.2 u hu).inField
    · cases hf
  · intro t ht hfield
    rcases Item.mem_inside hall.lead ht with htrivia | ⟨i, hi, hbody⟩
    · exact htrivia.sound
    · simp only [List.mem_cons, List.not_mem_nil, or_false] at hi
      rcases hi with rfl | rfl | rfl
      · exact (Item.sound_inField.mpr hname).body t hbody
      · exact hcolon.sound.body t hbody
      · exact absurd (Item.field_of_mem_inField hnode hbody) hfield

@[spec] theorem namedObjectMember_open :
    Yields (namedObjectMember g) fun i => i.Open ∧ i.IsEntry := by
  unfold namedObjectMember
  mvcgen <;> simp_all +zetaDelta [Item.isEntry_recast]

@[spec] theorem objectMember_open : Yields (objectMember g) fun i => i.Open ∧ i.IsEntry := by
  unfold objectMember
  mvcgen <;> simp_all

@[spec] theorem objectLiteral_open : Yields (objectLiteral g) Item.OpenNode := by
  have hms : Yields (listed "\x7d" (objectMember g)) fun is => ∀ i ∈ is, i.Open ∧ i.IsEntry :=
    yields_listed (objectMember_open hg) fun _ hi => ⟨hi.sound.isOpen, hi.isEntry⟩
  unfold objectLiteral
  mvcgen [-listed_sound, hms]
  rename_i o _ ho ms _ hms c _ hc
  refine ⟨Item.open_object ?_ ?_, Item.isNode_node⟩
  · simp_all [Item.OpenAll, or_imp, forall_and]
  · simp_all [or_imp, forall_and]

/-!
# Arrow functions
-/

@[spec] theorem arrowBody_sound (s : Setting) : Yields (arrowBody g s) Item.Sound := by
  unfold arrowBody
  mvcgen <;> simp_all

@[spec] theorem arrowTail_sound (s : Setting) {front : List Item}
    (hfront : Item.SoundAll front) : Yields (arrowTail g s front) Item.SoundNode := by
  unfold arrowTail
  mvcgen
  simp_all

@[spec] theorem coverList_open : Yields (coverList g) Item.OpenAll := by
  apply yields_whileSees
  mvcgen <;> simp_all

@[spec] theorem arrowFrom_sound (s : Setting) {front es : List Item} {o c : Item}
    (hfront : Item.SoundAll front) (ho : o.Sound) (hes : Item.OpenAll es) (hc : c.Sound) :
    Yields (arrowFrom g s front o es c) Item.SoundNode := by
  unfold arrowFrom
  mvcgen <;> simp_all +zetaDelta

omit hg in
theorem soundAll_of_isSequence {es : List Item} (h : isSequence es = true)
    (hes : Item.OpenAll es) : Item.SoundAll es := by
  intro e he
  have hall := List.all_eq_true.mp (Bool.and_eq_true_iff.mp h).2 e he
  exact (hes e he).sound (by simp_all)

@[spec] theorem arrowOrParenthesized_sound (s : Setting) :
    Yields (arrowOrParenthesized g s) Item.SoundNode := by
  unfold arrowOrParenthesized
  mvcgen
  case vc7 =>
      have hsound := soundAll_of_isSequence (by assumption) (by simp_all)
      simp_all
  case vc8 =>
      have hsound := soundAll_of_isSequence (by assumption) (by simp_all)
      simp_all
  all_goals simp_all

@[spec] theorem arrowWithParameters_sound (s : Setting) {front : List Item}
    (hfront : Item.SoundAll front) : Yields (arrowWithParameters g s front) Item.SoundNode := by
  unfold arrowWithParameters
  mvcgen <;> simp_all

@[spec] theorem nameOrArrow_sound (s : Setting) {front : List Item} {name : Item}
    (hfront : Item.SoundAll front) (hname : name.SoundNode) :
    Yields (nameOrArrow g s front name) Item.SoundNode := by
  unfold nameOrArrow
  mvcgen <;> simp_all

@[spec] theorem asyncOperand_sound (s : Setting) : Yields (asyncOperand g s) Item.SoundNode := by
  unfold asyncOperand
  mvcgen -trivial <;> simp_all +zetaDelta [-String.reduceToList]

/-!
# Suffixes
-/

omit hg in
@[spec] theorem memberName_sound : Yields memberName Item.Sound := by
  unfold memberName
  mvcgen <;> simp_all

@[spec] theorem subscript_sound {front : List Item} (hfront : Item.SoundAll front) :
    Yields (subscript g front) Item.SoundNode := by
  unfold subscript
  mvcgen
  simp_all

@[spec] theorem suffix_sound (s : Setting) (constructed : Bool) {i : Item} (hi : i.Sound) :
    Yields (suffix g s constructed i) fun j => ∀ i ∈ j, i.SoundNode := by
  unfold suffix
  mvcgen
  case vc5 =>
      intro t tree rest hscan
      exact scan_sound hscan fun _ => .leaf trivial
  all_goals simp_all +zetaDelta

@[spec] theorem importOperand_sound (s : Setting) : Yields (importOperand g s) Item.SoundNode := by
  unfold importOperand
  mvcgen -trivial <;> simp_all +zetaDelta [-String.reduceToList]

/-!
# Primary expressions
-/

omit hg in
theorem wordKind_notMem_nameless (w : Text) : wordKind w ∉ Item.nameless := by
  unfold wordKind
  repeat' split
  all_goals decide

@[spec] theorem wordOperand_sound (s : Setting) (w : Text) :
    Yields (wordOperand g s w) Item.SoundNode := by
  unfold wordOperand
  have hw := wordKind_notMem_nameless w
  mvcgen -trivial <;> simp_all [-String.reduceToList]

@[spec] theorem primary_fits (s : Setting) :
    ⦃⌜True⌝⦄ primary g s ⦃⇓? i t => ⌜i.Fits s.cover t⌝⦄ := by
  unfold primary
  mvcgen <;> simp_all [Item.Fits]

theorem suffixes_fits (s : Setting) (i : Item) :
    ⦃fun t => ⌜i.Fits s.cover t⌝⦄ grow (suffix g s false) i ⦃⇓? j t => ⌜j.Fits s.cover t⌝⦄ := by
  apply fits_of_atElementEnd
  · intro hi
    exact grow_sound (fun j hj => suffix_sound hg s false hj.1) i hi
  · exact grow_atElementEnd (suffix_atElementEnd s false i)

@[spec] theorem chain_sound : Yields (chain g) Item.SoundNode := by
  unfold chain
  mvcgen <;> simp_all

/-!
# Operands
-/

@[spec] theorem assignment_sound (s : Setting) {i : Item} (hi : i.SoundNode) :
    Yields (assignment g s i) Item.SoundNode := by
  unfold assignment
  mvcgen -trivial <;> simp_all +zetaDelta [-String.reduceToList]

theorem assignment_fits (s : Setting) (i : Item) :
    ⦃fun t => ⌜i.Fits s.cover t⌝⦄ assignment g s i ⦃⇓? j t => ⌜j.Fits s.cover t⌝⦄ :=
  fits_of_atElementEnd (assignment_sound hg s) (assignment_atElementEnd s i) s.cover

@[spec] theorem constructedBy_sound (s : Setting) {kw i : Item} (hkw : kw.Sound)
    (hi : i.Sound) : Yields (constructedBy g s kw i) Item.SoundNode := by
  unfold constructedBy
  mvcgen <;> simp_all +zetaDelta

@[spec] theorem constructedByAll_sound (s : Setting) {kws : List Item}
    (hkws : Item.SoundAll kws) {i : Item} (hi : i.SoundNode) :
    Yields (constructedByAll g s kws i) Item.SoundNode := by
  induction kws generalizing i with
  | nil =>
      unfold constructedByAll
      mvcgen
  | cons kw kws ih =>
      unfold constructedByAll
      mvcgen [ih] <;> simp_all

@[spec] theorem newOperand_sound (s : Setting) : Yields (newOperand g s) Item.SoundNode := by
  unfold newOperand
  mvcgen -trivial <;> simp_all +zetaDelta [-String.reduceToList]

@[spec] theorem yieldOperand_sound (s : Setting) : Yields (yieldOperand g s) Item.SoundNode := by
  unfold yieldOperand
  mvcgen -trivial <;> simp_all +zetaDelta [-String.reduceToList]

@[spec] theorem privateIn_sound (s : Setting) : Yields (privateIn g s) Item.SoundNode := by
  unfold privateIn
  mvcgen
  simp_all

@[spec] theorem unary_sound (s : Setting) {op : Parse Item} (h : Yields op Item.Sound) :
    Yields (unary g s op) Item.SoundNode := by
  unfold unary
  mvcgen [h]
  simp_all

@[spec] theorem prefixUpdate_sound (s : Setting) (op : String) :
    Yields (prefixUpdate g s op) Item.SoundNode := by
  unfold prefixUpdate
  mvcgen
  simp_all

@[spec] theorem operandOfWord_fits (s : Setting) (w : Text) :
    ⦃⌜True⌝⦄ operandOfWord g s w ⦃⇓? i t => ⌜i.Fits s.cover t⌝⦄ := by
  unfold operandOfWord
  mvcgen -trivial [-grow_sound, -assignment_sound, suffixes_fits, assignment_fits] <;>
    simp_all +zetaDelta [Item.Fits, -String.reduceToList]

@[spec] theorem operand_fits (s : Setting) :
    ⦃⌜True⌝⦄ operand g s ⦃⇓? i t => ⌜i.Fits s.cover t⌝⦄ := by
  unfold operand
  mvcgen -trivial [-grow_sound, -assignment_sound, suffixes_fits, assignment_fits] <;>
    simp_all +zetaDelta [Item.Fits, -String.reduceToList]

/-!
# Binary and conditional expressions
-/

@[spec] theorem extend_sound (s : Setting) (least : Nat) {l : Item} (hl : l.Sound) :
    Yields (extend g s least l) fun j => ∀ i ∈ j, i.SoundNode := by
  unfold extend
  mvcgen -trivial <;> simp_all +zetaDelta [-String.reduceToList]

theorem extensions_fits (s : Setting) (least : Nat) (i : Item) :
    ⦃fun t => ⌜i.Fits s.cover t⌝⦄ grow (extend g s least) i ⦃⇓? j t => ⌜j.Fits s.cover t⌝⦄ := by
  apply fits_of_atElementEnd
  · intro hi
    exact grow_sound (fun j hj => extend_sound hg s least hj.1) i hi
  · exact grow_atElementEnd (extend_atElementEnd s least i)

@[spec] theorem binary_fits (s : Setting) (least : Nat) :
    ⦃⌜True⌝⦄ binary g s least ⦃⇓? i t => ⌜i.Fits s.cover t⌝⦄ := by
  unfold binary
  mvcgen [-grow_sound, extensions_fits]
  intro _ _
  exact hg

@[spec] theorem expressionsFrom_sound {s : Setting} (hs : s.cover = false) {first : Item}
    (hfirst : first.SoundNode) : Yields (expressionsFrom g s first) Item.Sound := by
  unfold expressionsFrom
  mvcgen <;> simp_all

end Parse
end ComponentDecl
