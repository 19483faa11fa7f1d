import ComponentDecl.Parse.Pattern
import ComponentDecl.Proofs.Parse.Basic

set_option mvcgen.warning false

/-!
# Sound grammars

A grammar is sound if all its parsers yield sound items.  Each construct that is described
in terms of a sound grammar is then sound as well.
-/

namespace ComponentDecl
namespace Parse

open Std.Do

/-- Grammars whose parsers yield sound items, or open ones where it is not known yet whether
a literal is a pattern. -/
structure Grammar.Sound (g : Grammar) : Prop where
  binary : ∀ s least, s.cover = false → Yields (g.binary s least) Item.SoundNode
  covering : ∀ s least, Yields (g.binary s least) Item.OpenNode
  operand : ∀ s, s.cover = false → Yields (g.operand s) Item.SoundNode
  chain : Yields g.chain Item.SoundNode
  pattern : Yields g.pattern Item.Sound
  object : Yields g.object Item.OpenNode
  element : ∀ o, o.Sound → Yields (g.element o) Item.SoundNode
  statement : Yields g.statement Item.Sound

attribute [spec] Grammar.Sound.binary Grammar.Sound.operand Grammar.Sound.chain
  Grammar.Sound.pattern Grammar.Sound.object Grammar.Sound.element Grammar.Sound.statement

theorem Grammar.empty_sound : Grammar.empty.Sound where
  binary _ _ _ := yields_failure _
  covering _ _ := yields_failure _
  operand _ _ := yields_failure _
  chain := yields_failure _
  pattern := yields_failure _
  object := yields_failure _
  element _ _ := yields_failure _
  statement := yields_failure _

@[simp] theorem Setting.cover_inner : Setting.inner.cover = false :=
  rfl

@[simp] theorem Setting.cover_ending : Setting.ending.cover = false :=
  rfl

@[simp] theorem Setting.cover_free {s : Setting} : s.free.cover = s.cover :=
  rfl

@[simp] theorem Setting.cover_firm {s : Setting} : s.firm.cover = false :=
  rfl

variable {g : Grammar} (hg : g.Sound)
include hg

/-!
# Constructs built from the record alone
-/

@[spec] theorem expression_sound {s : Setting} (hs : s.cover = false) :
    Yields (expression g s) Item.SoundNode :=
  hg.binary s.free 0 hs

-- where a pattern may stand, the rule for sound expressions does not apply
@[spec high] theorem expression_open : Yields (expression g .covering) Item.OpenNode :=
  hg.covering .covering 0

@[spec] theorem sequence_sound {s : Setting} (hs : s.cover = false) {first : Item}
    (hfirst : first.Sound) : Yields (sequence g s first) Item.Sound := by
  unfold sequence
  mvcgen <;> simp_all

@[spec] theorem expressions_sound {s : Setting} (hs : s.cover = false) :
    Yields (expressions g s) Item.Sound := by
  unfold expressions
  mvcgen <;> simp_all

@[spec] theorem parenthesized_sound : Yields (parenthesized g) Item.Sound := by
  unfold parenthesized
  mvcgen
  simp_all

@[spec] theorem spread_sound {s : Setting} (hs : s.cover = false) :
    Yields (spread g s) Item.Sound := by
  unfold spread
  mvcgen
  simp_all

@[spec high] theorem spread_open :
    Yields (spread g .covering) fun i => i.Open ∧ i.IsEntry := by
  unfold spread
  mvcgen
  simp_all

@[spec] theorem expressionOrSpread_sound {s : Setting} (hs : s.cover = false) :
    Yields (expressionOrSpread g s) Item.Sound := by
  unfold expressionOrSpread
  mvcgen <;> simp_all

@[spec high] theorem expressionOrSpread_open :
    Yields (expressionOrSpread g .covering) Item.Open := by
  unfold expressionOrSpread
  mvcgen <;> simp_all

@[spec] theorem arguments_sound : Yields (arguments g) Item.Sound := by
  unfold arguments
  mvcgen
  all_goals simp_all

@[spec] theorem statements_sound (stop : Text → Bool) :
    Yields (statements g stop) Item.SoundAll := by
  unfold statements
  mvcgen <;> simp_all

@[spec] theorem blockWhere_sound (operators : Bool → Bool) :
    Yields (blockWhere g operators) Item.Sound := by
  unfold blockWhere
  mvcgen
  all_goals simp_all

@[spec] theorem block_sound (operators : Bool) : Yields (block g operators) Item.Sound :=
  blockWhere_sound hg _

@[spec] theorem initializer_sound {s : Setting} (hs : s.cover = false) :
    Yields (initializer g s) Item.SoundAll := by
  unfold initializer
  mvcgen
  simp_all

/-!
# Patterns
-/

@[spec] theorem propertyName_sound : Yields (propertyName g) fun i => i.IsKey ∧ i.Sound := by
  unfold propertyName
  mvcgen <;> simp_all
  intro hword _ _
  exact hword.isKey

@[spec] theorem patternWithDefault_sound : Yields (patternWithDefault g) Item.Sound := by
  unfold patternWithDefault
  mvcgen
  simp_all

@[spec] theorem arrayPattern_sound : Yields (arrayPattern g) Item.Sound := by
  unfold arrayPattern
  mvcgen <;> simp_all

omit hg in
@[spec] theorem restPattern_sound {target : Parse Item} (h : Yields target Item.Sound) :
    Yields (restPattern target) Item.Sound := by
  unfold restPattern
  mvcgen [h]
  simp_all

@[spec] theorem place_sound : Yields (place g) Item.Sound := by
  unfold place
  mvcgen
  simp_all

@[spec] theorem namedMember_sound : Yields (namedMember g) Item.Sound := by
  unfold namedMember
  mvcgen <;> simp_all +zetaDelta

@[spec] theorem destructuredMember_sound {inner : Parse Item} (h : Yields inner Item.Sound) :
    Yields (destructuredMember g inner) fun i => i.Sound ∧ i.IsEntry := by
  unfold destructuredMember
  mvcgen [h]
  simp_all

@[spec] theorem patternMember_sound : Yields (patternMember g) Item.Sound := by
  unfold patternMember
  mvcgen <;> simp_all

@[spec] theorem objectPattern_sound : Yields (objectPattern g) Item.Sound := by
  unfold objectPattern
  mvcgen <;> simp_all

@[spec] theorem destructuring_sound : Yields (destructuring g) Item.Sound := by
  unfold destructuring
  mvcgen <;> simp_all

@[spec] theorem target_sound : Yields (target g) Item.Sound := by
  unfold target
  mvcgen <;> simp_all

@[spec] theorem pattern_sound : Yields (pattern g) Item.Sound := by
  unfold pattern
  mvcgen <;> simp_all

@[spec] theorem binding_sound : Yields (binding g) Item.Sound := by
  unfold binding
  mvcgen <;> simp_all

@[spec] theorem parameters_sound : Yields (parameters g) Item.Sound := by
  unfold parameters
  mvcgen <;> simp_all

end Parse
end ComponentDecl
