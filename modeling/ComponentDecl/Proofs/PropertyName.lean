import ComponentDecl.Proofs.Table

/-!
# The properties that keys denote

One property can be spelled in several ways: as a name, as a number, or between quotes of
either kind.  A table tells its entries by the names of members, which keep the quotes of a
string unless a plain name stands between them.  So the spellings of a plain name share an
entry, and those of other properties share one only where the keys agree to the letter.
-/

namespace ComponentDecl

/-- Whether a numeral is a decimal integer without leading zeros. -/
def isDecimal (t : Text) : Bool :=
  t == ['0'] || (t.head?.any fun c => c != '0') && t.all Lexeme.isDigit

namespace Cursor

/-- The property that a key denotes: a name or a decimal integer as it is spelled, and what
stands between the quotes of a string without escapes.  What other keys denote is left
open. -/
def denoted? (key : Cursor) : Option Text :=
  match key.kind? with
  | some .propertyIdentifier | some .identifier => some key.text
  | some .number => if isDecimal key.text then some key.text else none
  | some .string =>
      if (unquoted key.text).contains '\\' then none else some (unquoted key.text)
  | _ => none

/-- The property that the key of a pair denotes. -/
def denotes? (pair : Cursor) : Option Text :=
  (pair.fieldNamed .key).bind denoted?

def member? (pair : Cursor) : Option Text :=
  (pair.fieldNamed .key).bind memberName?

def spelling? (pair : Cursor) : Option Text :=
  (pair.fieldNamed .key).map text

/-- Whether pairs that denote one property spell it alike, unless it is a plain name. -/
def SpellsAlike (object : Cursor) : Prop :=
  ∀ p ∈ object.namedPairs, ∀ q ∈ object.namedPairs, ∀ a ∈ p.denotes?,
    q.denotes? = some a → isPlainName a = true ∨ p.spelling? = q.spelling?

instance (object : Cursor) : Decidable object.SpellsAlike :=
  inferInstanceAs (Decidable (∀ p ∈ object.namedPairs, ∀ q ∈ object.namedPairs,
    ∀ a ∈ p.denotes?, q.denotes? = some a →
      isPlainName a = true ∨ p.spelling? = q.spelling?))

/-- Whether a pair of the object literal enters a property under a name. -/
def EntersAs (object : Cursor) (a name : Text) : Prop :=
  ∃ pair ∈ object.namedPairs, pair.denotes? = some a ∧ pair.member? = some name

/-- The one entry of a property: where the first pair that denotes the property puts it,
behind the entries of the pairs before, and with what the last such pair gives. -/
structure IsOnlyEntry (o : InferenceOptions) (object : Cursor) (a : Text) (before : List Cursor)
    (first : Cursor) (front : List (Text × PropEntry)) (entry : Text × PropEntry)
    (back : List (Text × PropEntry)) : Prop where
  place : front.map Prod.fst = (before.filterMap member?).eraseDups
  name : first.member? = some entry.1
  only : ∀ other ∈ front ++ back, ¬ object.EntersAs a other.1
  last : ∃ last name, Gives o last (name, entry.2) ∧
    (object.namedPairs.filter fun pair => pair.denotes? == some a).getLast? = some last

/-- Whether a table has one entry for each property that an object literal denotes. -/
def OneEntryEach (o : InferenceOptions) (object : Cursor) (table : PropTable) : Prop :=
  ∀ a before first after, object.namedPairs = before ++ first :: after →
    first.denotes? = some a → (∀ pair ∈ before, pair.denotes? ≠ some a) →
    ∃ front entry back, table.entries = front ++ entry :: back ∧
      IsOnlyEntry o object a before first front entry back

end Cursor

/-!
# Reading a name of a member back
-/

/-- The property that a key with the given name of a member denotes. -/
def denotedBy (name : Text) : Option Text :=
  if name.head?.any Lexeme.isQuote then
    if (unquoted name).contains '\\' then none else some (unquoted name)
  else if name.head?.any fun c => Lexeme.isDigit c || c == '.' then
    if isDecimal name then some name else none
  else some name

theorem denotedBy_eq_some {name : Text}
    (h : ∀ c ∈ name.head?, Lexeme.isQuote c = false ∧ (Lexeme.isDigit c || c == '.') = false) :
    denotedBy name = some name := by
  unfold denotedBy
  cases hhead : name.head? with
  | none =>
      rfl
  | some c =>
      rcases h c hhead with ⟨hquote, hstart⟩
      simp only [Option.any_some, hquote, hstart]
      rfl

theorem denotedBy_of_isWord {t : Text} (h : Lexeme.IsWord t) : denotedBy t = some t := by
  apply denotedBy_eq_some
  intro c hc
  have hdigit := h.2 c hc
  -- a name begins with a name character or with the backslash of an escape
  have hne : ∀ d ∈ ['"', '\'', '.'], c ≠ d := by
    intro d hd heq
    subst heq
    cases h.1 with
    | nil =>
        cases hc
    | char hname _ =>
        rcases Option.some.inj hc with rfl
        have hmarks : ['"', '\'', '.'].any Lexeme.isNameChar = false := by
          decide
        exact List.any_eq_false.mp hmarks _ hd hname
    | escape he _ =>
        rcases Option.some.inj (hc.symm.trans (he.head? _)) with rfl
        revert hd
        decide
  simp only [List.forall_mem_cons] at hne
  rcases hne with ⟨hdouble, hsingle, hpoint, _⟩
  simp [Lexeme.isQuote, hdouble, hsingle, hpoint, hdigit]

theorem denotedBy_of_isNumber {t : Text} (h : Lexeme.IsNumber t) :
    denotedBy t = if isDecimal t then some t else none := by
  rcases h with ⟨_, hne, hstart⟩
  cases t with
  | nil =>
      exact absurd rfl hne
  | cons c rest =>
      have hc := hstart c rfl
      have hquote : Lexeme.isQuote c = false := by
        apply Bool.eq_false_iff.mpr
        intro hq
        rcases Lexeme.isQuote_iff.mp hq with rfl | rfl
        · exact absurd hc (by decide)
        · exact absurd hc (by decide)
      unfold denotedBy
      simp only [List.head?_cons, Option.any_some, hquote, hc]
      rfl

theorem denotedBy_of_isString {t : Text} (h : Lexeme.IsString t) :
    denotedBy t = if (unquoted t).contains '\\' then none else some (unquoted t) := by
  rcases h.head_isQuote with ⟨q, tail, hq, htext⟩
  have hhead : t.head?.any Lexeme.isQuote = true := by
    simp [htext, hq]
  unfold denotedBy
  rw [if_pos hhead]

theorem Text.le_of_isLetter {c : Char} (h : isLetter c = true) : 65 ≤ c.toNat := by
  have hfirst : inRanges c.toNat ((0x41, 0x5A) :: letterRanges.tail) = true := h
  unfold inRanges at hfirst
  split at hfirst
  · cases hfirst
  · omega

theorem head_of_le {c : Char} (h : 65 ≤ c.toNat) :
    Lexeme.isQuote c = false ∧ (Lexeme.isDigit c || c == '.') = false := by
  -- quotes, digits and the point come before the letters
  have hne : ∀ d : Char, d.toNat < 65 → c ≠ d := by
    intro d hd heq
    subst heq
    omega
  simp only [Lexeme.isQuote, Lexeme.isDigit, Bool.or_eq_false_iff, Bool.and_eq_false_iff,
    beq_eq_false_iff_ne, decide_eq_false_iff_not]
  refine ⟨⟨hne '"' (by decide), hne '\'' (by decide)⟩, Or.inr ?_, hne '.' (by decide)⟩
  omega

theorem denotedBy_of_isPlainName {t : Text} (h : isPlainName t = true) :
    denotedBy t = some t := by
  apply denotedBy_eq_some
  intro c hc
  cases t with
  | nil =>
      cases hc
  | cons d rest =>
      rcases Option.some.inj hc with rfl
      rw [isPlainName, Bool.and_eq_true] at h
      simp only [Bool.or_eq_true, beq_iff_eq] at h
      rcases h.1 with (hletter | rfl) | rfl
      · exact head_of_le (Text.le_of_isLetter hletter)
      · decide
      · decide

theorem notMem_of_isPlainName {t : Text} (h : isPlainName t = true) : '\\' ∉ t := by
  intro hmem
  have hall := all_of_isPlainName h '\\' hmem
  revert hall
  decide

namespace Cursor

/-!
# Pairs that share a member
-/

theorem Gives.member? {o : InferenceOptions} {pair : Cursor} {p : Text × PropEntry}
    (h : Gives o pair p) : pair.member? = some p.1 := by
  rcases h.name with ⟨key, hkey, hname⟩
  simp [Cursor.member?, hkey, hname]

/-- What a pair denotes can be read off the name of its member. -/
theorem Sound.denotes?_eq {pair : Cursor} {name : Text} (h : pair.Sound)
    (hpair : pair.isNamedPair = true) (hname : pair.member? = some name) :
    pair.denotes? = denotedBy name := by
  have hkind : pair.isA .pair = true := (Bool.and_eq_true_iff.mp hpair).1
  rcases Option.bind_eq_some_iff.mp hname with ⟨key, hkey, hmember⟩
  have hsound := h.fieldNamed hkey
  unfold Cursor.denotes?
  rw [hkey, Option.bind_some]
  unfold Cursor.memberName? at hmember
  split at hmember
  · rename_i hk
    rcases Option.some.inj hmember with rfl
    have hword := hsound.text_leaf hk (by simp [Tree.BranchSound])
    unfold denoted?
    rw [hk, denotedBy_of_isWord hword]
  · rename_i hk
    rcases Option.some.inj hmember with rfl
    have hword := hsound.text_leaf hk (by simp [Tree.BranchSound])
    unfold denoted?
    rw [hk, denotedBy_of_isWord hword]
  · rename_i hk
    rcases Option.some.inj hmember with rfl
    have hnumber := hsound.text_leaf hk (by simp [Tree.BranchSound])
    unfold denoted?
    rw [hk, denotedBy_of_isNumber hnumber]
  · rename_i hk
    rcases Option.some.inj hmember with rfl
    unfold denoted?
    rw [hk]
    by_cases hplain : isPlainName (unquoted key.text) = true
    · have hescape := notMem_of_isPlainName hplain
      simp [hplain, denotedBy_of_isPlainName hplain, hescape]
    · rw [if_neg hplain, denotedBy_of_isString (h.isScanned hkind hkey hk).isString]
  · cases hmember

/-- A key names the property it denotes if that is a plain name, and itself if not. -/
theorem memberName?_of_denoted? {key : Cursor} {a : Text} (ha : key.denoted? = some a) :
    key.memberName? = some (if isPlainName a then a else key.text) := by
  unfold denoted? at ha
  split at ha
  · rename_i hk
    unfold memberName?
    rw [hk, ← Option.some.inj ha, ite_self]
  · rename_i hk
    unfold memberName?
    rw [hk, ← Option.some.inj ha, ite_self]
  · rename_i hk
    unfold memberName?
    split at ha
    · rw [hk, ← Option.some.inj ha, ite_self]
    · cases ha
  · rename_i hk
    unfold memberName?
    split at ha
    · cases ha
    · rw [hk, ← Option.some.inj ha]
  · cases ha

theorem member?_of_denotes? {pair : Cursor} {a : Text} (ha : pair.denotes? = some a) :
    pair.member? = if isPlainName a then some a else pair.spelling? := by
  rcases Option.bind_eq_some_iff.mp ha with ⟨key, hkey, hdenoted⟩
  unfold member? spelling?
  rw [hkey, Option.bind_some, Option.map_some, memberName?_of_denoted? hdenoted]
  split <;> rfl

theorem exists_member? {object pair : Cursor} (h : object.Sound)
    (hpair : pair ∈ object.namedPairs) : ∃ name, pair.member? = some name := by
  rcases h.namedPair hpair with ⟨hsound, hnamed⟩
  rcases hsound.exists_gives hnamed {} with ⟨p, hp⟩
  exact ⟨p.1, hp.member?⟩

theorem denotes?_congr {object p q : Cursor} (h : object.Sound) (hp : p ∈ object.namedPairs)
    (hq : q ∈ object.namedPairs) (hname : p.member? = q.member?) : p.denotes? = q.denotes? := by
  rcases h.namedPair hp with ⟨hsound, hnamed⟩
  rcases h.namedPair hq with ⟨hsound', hnamed'⟩
  rcases exists_member? h hp with ⟨name, hmember⟩
  rw [hsound.denotes?_eq hnamed hmember, hsound'.denotes?_eq hnamed' (hname.symm.trans hmember)]

/-- Two pairs name one member if they denote one property and spell it alike or plainly. -/
theorem member?_eq_iff {object p q : Cursor} {a b : Text} (h : object.Sound)
    (hp : p ∈ object.namedPairs) (hq : q ∈ object.namedPairs) (ha : p.denotes? = some a)
    (hb : q.denotes? = some b) :
    p.member? = q.member? ↔ a = b ∧ (isPlainName a = true ∨ p.spelling? = q.spelling?) := by
  have hmember := member?_of_denotes? ha
  have hmember' := member?_of_denotes? hb
  constructor
  · intro heq
    have hdenotes := denotes?_congr h hp hq heq
    rw [ha, hb] at hdenotes
    refine ⟨Option.some.inj hdenotes, ?_⟩
    rcases Option.some.inj hdenotes with rfl
    by_cases hplain : isPlainName a = true
    · exact Or.inl hplain
    · rw [hmember, hmember', if_neg hplain, if_neg hplain] at heq
      exact Or.inr heq
  · intro hshared
    rcases hshared with ⟨rfl, hplain | hspelling⟩
    · rw [hmember, hmember', if_pos hplain, if_pos hplain]
    · rw [hmember, hmember', hspelling]

/-!
# One entry for each property
-/

theorem names_propsOf {object : Cursor} (h : object.Sound) (o : InferenceOptions) :
    (object.propsOf o).map Prod.fst = object.namedPairs.filterMap member? := by
  rw [propsOf_eq, List.map_filterMap]
  apply List.filterMap_congr
  intro pair hpair
  rcases h.namedPair hpair with ⟨hsound, hnamed⟩
  rcases hsound.exists_gives hnamed o with ⟨p, hp⟩
  rw [gives_iff.mp hp, hp.member?]
  rfl

theorem exists_last {object : Cursor} (h : object.Sound) {o : InferenceOptions} {name : Text}
    {entry : PropEntry} (hlookup : (object.propsOf o).reverse.lookup name = some entry) :
    ∃ earlier last later, object.namedPairs = earlier ++ last :: later ∧
      Gives o last (name, entry) ∧ ∀ pair ∈ later, pair.member? ≠ some name := by
  rcases PropTable.exists_last_of_lookup hlookup with ⟨earlier, later, hprops, hlater⟩
  rw [propsOf_eq] at hprops
  rcases List.filterMap_eq_append_iff.mp hprops with ⟨ps, rest, hsplit, _, hrest⟩
  rcases List.filterMap_eq_cons_iff.mp hrest with ⟨skipped, last, qs, rfl, _, hlast, hqs⟩
  refine ⟨ps ++ skipped, last, qs, ?_, gives_iff.mpr hlast, ?_⟩
  · rw [hsplit, List.append_assoc]
  · intro pair hpair hname
    have hmem : pair ∈ object.namedPairs := by
      simp [hsplit, hpair]
    rcases h.namedPair hmem with ⟨hsound, hnamed⟩
    rcases hsound.exists_gives hnamed o with ⟨p, hp⟩
    have hlate : p ∈ later := by
      rw [← hqs]
      exact List.mem_filterMap.mpr ⟨pair, hpair, gives_iff.mp hp⟩
    apply hlater p hlate
    exact Option.some.inj (hp.member?.symm.trans hname)

theorem mem_names_of_member? {object pair : Cursor} (h : object.Sound) (o : InferenceOptions)
    (hpair : pair ∈ object.namedPairs) {name : Text} (hname : pair.member? = some name) :
    name ∈ (PropTable.ofList (object.propsOf o)).names := by
  rw [PropTable.names_ofList, List.mem_eraseDups, names_propsOf h]
  exact List.mem_filterMap.mpr ⟨pair, hpair, hname⟩

theorem Sound.oneEntryEach {object : Cursor} (h : object.Sound) (halike : object.SpellsAlike)
    (o : InferenceOptions) : OneEntryEach o object (PropTable.ofList (object.propsOf o)) := by
  intro a before first after hpairs hfirst hbefore
  have hmem : first ∈ object.namedPairs := by
    simp [hpairs]
  rcases exists_member? h hmem with ⟨name, hname⟩
  -- a pair denotes the property if and only if it names the member that the first one names
  have hshared : ∀ pair ∈ object.namedPairs, pair.denotes? = some a →
      pair.member? = some name := by
    intro pair hpair hdenotes
    rw [← hname]
    exact (member?_eq_iff h hpair hmem hdenotes hfirst).mpr
      ⟨rfl, halike pair hpair first hmem a hdenotes hfirst⟩
  have hdenotes : ∀ pair ∈ object.namedPairs, pair.member? = some name →
      pair.denotes? = some a := by
    intro pair hpair hmember
    rw [denotes?_congr h hpair hmem (hmember.trans hname.symm), hfirst]
  have hnames : (object.propsOf o).map Prod.fst =
      before.filterMap member? ++ name :: after.filterMap member? := by
    rw [names_propsOf h, hpairs, List.filterMap_append, List.filterMap_cons_some hname]
  have hnew : name ∉ before.filterMap member? := by
    intro hmem
    rcases List.mem_filterMap.mp hmem with ⟨pair, hpair, hmember⟩
    exact hbefore pair hpair (hdenotes pair (by simp [hpairs, hpair]) hmember)
  rcases PropTable.exists_entry hnames hnew with
    ⟨front, entry, back, hentries, hfront, hother, hlookup⟩
  rcases exists_last h hlookup with ⟨earlier, last, later, hsplit, hgives, hlater⟩
  refine ⟨front, (name, entry), back, hentries, hfront, hname, ?_, last, name, hgives, ?_⟩
  · intro other hmem' henters
    rcases henters with ⟨pair, hpair, hdenoted, hmember⟩
    apply hother other hmem'
    exact Option.some.inj (hmember.symm.trans (hshared pair hpair hdenoted))
  · have hlast : (last.denotes? == some a) = true :=
      beq_iff_eq.mpr (hdenotes last (by simp [hsplit]) hgives.member?)
    have hnone : (later.filter fun pair => pair.denotes? == some a) = [] := by
      rw [List.filter_eq_nil_iff]
      intro pair hpair hdenoted
      exact hlater pair hpair (hshared pair (by simp [hsplit, hpair]) (eq_of_beq hdenoted))
    rw [hsplit, List.filter_append, List.filter_cons, if_pos hlast, hnone,
      List.getLast?_concat]

/-- All pairs that denote a property name the member of its only entry. -/
theorem OneEntryEach.exists_name {o : InferenceOptions} {object : Cursor} (h : object.Sound)
    (hone : OneEntryEach o object (PropTable.ofList (object.propsOf o))) (a : Text) :
    ∃ name, ∀ pair ∈ object.namedPairs, pair.denotes? = some a → pair.member? = some name := by
  cases hfind : object.namedPairs.find? fun pair => pair.denotes? == some a with
  | none =>
      refine ⟨[], ?_⟩
      intro pair hpair hdenotes
      exact absurd (beq_iff_eq.mpr hdenotes) (List.find?_eq_none.mp hfind pair hpair)
  | some first =>
      rcases List.find?_eq_some_iff_append.mp hfind with ⟨hfirst, before, after, hpairs, hnone⟩
      have hbefore : ∀ pair ∈ before, pair.denotes? ≠ some a := by
        intro pair hpair heq
        simpa [heq] using hnone pair hpair
      rcases hone a before first after hpairs (eq_of_beq hfirst) hbefore with
        ⟨front, entry, back, hentries, hentry⟩
      refine ⟨entry.1, ?_⟩
      intro pair hpair hdenotes
      rcases exists_member? h hpair with ⟨name, hname⟩
      have hnames := mem_names_of_member? h o hpair hname
      unfold PropTable.names at hnames
      rw [hentries] at hnames
      rcases List.mem_map.mp hnames with ⟨e, he, rfl⟩
      have heq : e = entry := by
        by_contra hne
        have hmem : e ∈ front ++ back := by
          simp only [List.mem_append, List.mem_cons, hne, false_or] at he ⊢
          exact he
        exact hentry.only e hmem ⟨pair, hpair, hdenotes, hname⟩
      rw [hname, heq]

theorem OneEntryEach.spellsAlike {o : InferenceOptions} {object : Cursor} (h : object.Sound)
    (hone : OneEntryEach o object (PropTable.ofList (object.propsOf o))) :
    object.SpellsAlike := by
  intro p hp q hq a ha hb
  rcases hone.exists_name h a with ⟨name, hname⟩
  have heq : p.member? = q.member? := (hname p hp ha).trans (hname q hq hb).symm
  exact ((member?_eq_iff h hp hq ha hb).mp heq).2

end Cursor

/-- Two pairs of an object literal share an entry if and only if they denote one property
and spell it alike or plainly.  So a table has one entry for each property exactly if the
pairs that denote one property spell it alike, unless it is a plain name. -/
theorem entries_tell_properties_iff {source : Text} {m : Module}
    (hm : Module.parse source = .ok m) {object : Cursor} (hobject : object ∈ m.root.nodes)
    (o : InferenceOptions) :
    (∀ p ∈ object.namedPairs, ∀ q ∈ object.namedPairs, ∀ a b,
        p.denotes? = some a → q.denotes? = some b →
        (p.member? = q.member? ↔
          a = b ∧ (isPlainName a = true ∨ p.spelling? = q.spelling?))) ∧
      (Cursor.OneEntryEach o object (PropTable.ofObject o object).value ↔
        object.SpellsAlike) := by
  have h : object.Sound := (Module.sound_root hm).nodes hobject
  rw [PropTable.value_ofObject]
  constructor
  · intro p hp q hq a b ha hb
    exact Cursor.member?_eq_iff h hp hq ha hb
  · constructor
    · intro hone
      exact hone.spellsAlike h
    · intro halike
      exact h.oneEntryEach halike o

/-- An object literal that spells one property with a name and with quotes, and another one
with quotes of either kind. -/
def twinSource : Text :=
  "x = \x7b a: 1, 'b-c': 1, 'a': React.PropTypes.bool, \"b-c\": React.PropTypes.bool \x7d"

theorem entries_tell_properties_iff_twin :
    ∃ m object, Module.parse twinSource = .ok m ∧ object ∈ m.root.nodes ∧
      object.isA .object = true ∧
      object.namedPairs.filterMap Cursor.denotes? = ["a", "b-c", "a", "b-c"] ∧
      (Cursor.OneEntryEach {} object (PropTable.ofObject {} object).value ↔
        object.SpellsAlike) := by
  have hrun : (Module.parse twinSource).toOption.any (fun m =>
      (m.root.nodes.find? (Cursor.isA .object)).any fun object =>
        object.namedPairs.filterMap Cursor.denotes? ==
          (["a", "b-c", "a", "b-c"] : List Text)) = true := by
    decide +kernel
  rcases Module.exists_of_any hrun with ⟨m, hm, hany⟩
  rcases (Option.any_eq_true _ _).mp hany with ⟨object, hfind, hdenotes⟩
  have hobject := List.mem_of_find?_eq_some hfind
  have hkind := List.find?_some hfind
  rcases entries_tell_properties_iff hm hobject {} with ⟨_, hone⟩
  exact ⟨m, object, hm, hobject, hkind, eq_of_beq hdenotes, hone⟩

/-- The pairs that put one property between quotes of either kind have an entry each. -/
theorem exists_property_with_two_entries :
    ∃ m object, Module.parse twinSource = .ok m ∧ object ∈ m.root.nodes ∧
      object.isA .object = true ∧
      (PropTable.ofObject {} object).value.names = ["a", "'b-c'", "\"b-c\""] ∧
      ¬ Cursor.OneEntryEach {} object (PropTable.ofObject {} object).value := by
  have hrun : (Module.parse twinSource).toOption.any (fun m =>
      (m.root.nodes.find? (Cursor.isA .object)).any fun object =>
        (PropTable.ofObject {} object).value.names == ["a", "'b-c'", "\"b-c\""] &&
          !decide object.SpellsAlike) = true := by
    decide +kernel
  rcases Module.exists_of_any hrun with ⟨m, hm, hany⟩
  rcases (Option.any_eq_true _ _).mp hany with ⟨object, hfind, hcheck⟩
  rcases Bool.and_eq_true_iff.mp hcheck with ⟨hnames, hspelled⟩
  have hobject := List.mem_of_find?_eq_some hfind
  have hkind := List.find?_some hfind
  have hsound : object.Sound := (Module.sound_root hm).nodes hobject
  refine ⟨m, object, hm, hobject, hkind, eq_of_beq hnames, ?_⟩
  rw [PropTable.value_ofObject]
  intro hone
  simp [hone.spellsAlike hsound] at hspelled

end ComponentDecl
