import ComponentDecl.Proofs.Table

/-!
# Notices about the members of an object literal

Reading a table passes over an object literal twice: the walk tells of its pairs, the row of
its children tells of the members that name no type.  The grammar lets no other members in,
so every member is told of once.
-/

namespace ComponentDecl

namespace Logged

/-- The notices for those who look for mistakes in the library. -/
def debugNotices {α : Type} (x : Logged α) : List Notice :=
  x.notices.filter fun n => n.level == .debug

@[simp] theorem debugNotices_pure {α : Type} (a : α) : (pure a : Logged α).debugNotices = [] :=
  rfl

@[simp] theorem debugNotices_bind {α β : Type} (x : Logged α) (f : α → Logged β) :
    (x >>= f).debugNotices = x.debugNotices ++ (f x.value).debugNotices := by
  simp [debugNotices]

@[simp] theorem debugNotices_map {α β : Type} (f : α → β) (x : Logged α) :
    (f <$> x).debugNotices = x.debugNotices := by
  rw [map_eq_pure_bind, debugNotices_bind, debugNotices_pure, List.append_nil]

@[simp] theorem debugNotices_tell (n : Notice) :
    (tell n).debugNotices = if n.level = .debug then [n] else [] := by
  simp [debugNotices, List.filter_cons]

theorem debugNotices_foldlM {α σ : Type} {f : σ → α → Logged σ} {g : α → List Notice}
    (h : ∀ s x, (f s x).debugNotices = g x) (xs : List α) (s : σ) :
    (xs.foldlM f s).debugNotices = xs.flatMap g := by
  induction xs generalizing s with
  | nil =>
      rfl
  | cons x rest ih =>
      rw [List.foldlM_cons, debugNotices_bind, h, ih, List.flatMap_cons]

end Logged

namespace Cursor

/-!
# Members
-/

/-- Whether a member of an object literal names no type. -/
def isUntyped (c : Cursor) : Bool :=
  c.kind?.any PropTable.untypedKinds.contains

/-- Whether a node is a comment, in whatever manner. -/
def isRemark (c : Cursor) : Bool :=
  c.isA .comment || c.isA .htmlComment

theorem Sound.exists_entryKind {object c : Cursor} (h : object.Sound)
    (hobject : object.isA .object = true) (hc : c ∈ object.namedChildren) :
    ∃ k ∈ Tree.entryKinds, c.kind? = some k := by
  rcases h.branchSound hobject hc with ⟨hentries, hchild⟩
  have hnamed : c.tree.isNamed = true := (List.mem_filter.mp hc).2
  rcases Option.isSome_iff_exists.mp hnamed with ⟨k, hk⟩
  exact ⟨k, hentries c.tree hchild k hk, hk⟩

/-- A member is a pair, or it names no type, or it is a comment. -/
theorem member_cases {c : Cursor} {k : Kind} (hk : k ∈ Tree.entryKinds)
    (hc : c.kind? = some k) :
    c.isRemark = false ∧ c.isA .pair = true ∧ c.isUntyped = false ∨
      c.isRemark = false ∧ c.isA .pair = false ∧ c.isUntyped = true ∨
      c.isRemark = true ∧ c.isA .pair = false ∧ c.isUntyped = false := by
  simp only [isRemark, isA, isUntyped, hc]
  simp only [List.mem_cons, List.not_mem_nil, or_false] at hk
  rcases hk with rfl | rfl | rfl | rfl | rfl | rfl <;> decide

theorem length_filter_isRemark {cs : List Cursor}
    (h : ∀ c ∈ cs, ∃ k ∈ Tree.entryKinds, c.kind? = some k) :
    (cs.filter fun c => !c.isRemark).length =
      (cs.filter (isA .pair)).length + (cs.filter isUntyped).length := by
  induction cs with
  | nil =>
      rfl
  | cons c rest ih =>
      rcases List.forall_mem_cons.mp h with ⟨⟨k, hk, hc⟩, hrest⟩
      have hlength := ih hrest
      rcases member_cases hk hc with ⟨hr, hp, hu⟩ | ⟨hr, hp, hu⟩ | ⟨hr, hp, hu⟩
      · simp only [List.filter_cons, hr, hp, hu, Bool.not_false, if_true, Bool.false_eq_true,
          if_false, List.length_cons, hlength]
        omega
      · simp only [List.filter_cons, hr, hp, hu, Bool.not_false, if_true, Bool.false_eq_true,
          if_false, List.length_cons, hlength]
        omega
      · simp only [List.filter_cons, hr, hp, hu, Bool.not_true, Bool.false_eq_true, if_false,
          hlength]

/-!
# What is told of a member
-/

/-- A pair is told of by its member name and the type of its value, or by its key if that
names no member. -/
inductive ToldPair (o : InferenceOptions) (pair : Cursor) : Notice → Prop where
  | inferred {key value : Cursor} {name : Text} (hkey : pair.fieldNamed .key = some key)
      (hvalue : pair.fieldNamed .value = some value) (hname : key.memberName? = some name) :
      ToldPair o pair (.propInferred name (value.tree.declaredType o))
  | skipped {key : Cursor} (hkey : pair.fieldNamed .key = some key)
      (hname : key.memberName? = none) : ToldPair o pair (.keySkipped key.text)

/-- A member that names no type is told of by its kind and its text. -/
inductive ToldUntyped (member : Cursor) : Notice → Prop where
  | skipped {k : Kind} (hk : member.kind? = some k) :
      ToldUntyped member (.entrySkipped k.spelling member.text)

/-- The notice about a pair. -/
def pairNotice? (o : InferenceOptions) (pair : Cursor) : Option Notice := do
  let key ← pair.fieldNamed .key
  let value ← pair.fieldNamed .value
  match key.memberName? with
  | some name => return .propInferred name (value.tree.declaredType o)
  | none => return .keySkipped key.text

/-- The notice about a member that names no type. -/
def untypedNotice? (member : Cursor) : Option Notice :=
  member.kind?.map fun k => .entrySkipped k.spelling member.text

theorem Sound.exists_pairNotice {pair : Cursor} (h : pair.Sound) (hpair : pair.isA .pair = true)
    (o : InferenceOptions) : ∃ n, pair.pairNotice? o = some n := by
  rcases exists_fieldNamed (h.fills hpair).1 with ⟨key, hkey⟩
  rcases exists_fieldNamed (h.fills hpair).2 with ⟨value, hvalue⟩
  cases hname : key.memberName? with
  | some name =>
      exact ⟨.propInferred name (value.tree.declaredType o), by
        simp [pairNotice?, hkey, hvalue, hname]⟩
  | none =>
      exact ⟨.keySkipped key.text, by simp [pairNotice?, hkey, hvalue, hname]⟩

theorem toldPair_of_pairNotice {o : InferenceOptions} {pair : Cursor} {n : Notice}
    (h : pair.pairNotice? o = some n) : ToldPair o pair n := by
  rcases Option.bind_eq_some_iff.mp h with ⟨key, hkey, h⟩
  rcases Option.bind_eq_some_iff.mp h with ⟨value, hvalue, h⟩
  cases hname : key.memberName? with
  | some name =>
      simp only [hname] at h
      rcases Option.some.inj h with rfl
      exact .inferred hkey hvalue hname
  | none =>
      simp only [hname] at h
      rcases Option.some.inj h with rfl
      exact .skipped hkey hname

theorem toldUntyped_of_untypedNotice {member : Cursor} {n : Notice}
    (h : member.untypedNotice? = some n) : ToldUntyped member n := by
  rcases Option.map_eq_some_iff.mp h with ⟨k, hk, rfl⟩
  exact .skipped hk

theorem forall₂_toldPair {object : Cursor} (h : object.Sound) (o : InferenceOptions) :
    List.Forall₂ (ToldPair o) (object.namedChildren.filter (isA .pair))
      ((object.namedChildren.filter (isA .pair)).filterMap (pairNotice? o)) := by
  have hnotices : List.Forall₂ (fun pair n => pair.pairNotice? o = some n)
      (object.namedChildren.filter (isA .pair))
      ((object.namedChildren.filter (isA .pair)).filterMap (pairNotice? o)) := by
    apply forall₂_filterMap
    intro pair hpair
    rcases List.mem_filter.mp hpair with ⟨hmem, hkind⟩
    exact (h.children (mem_children_of_mem_namedChildren hmem)).exists_pairNotice hkind o
  exact hnotices.imp fun _ _ hn => toldPair_of_pairNotice hn

theorem forall₂_toldUntyped (cs : List Cursor) :
    List.Forall₂ ToldUntyped (cs.filter isUntyped)
      ((cs.filter isUntyped).filterMap untypedNotice?) := by
  have hnotices : List.Forall₂ (fun c n => c.untypedNotice? = some n) (cs.filter isUntyped)
      ((cs.filter isUntyped).filterMap untypedNotice?) := by
    apply forall₂_filterMap
    intro c hc
    rcases (Option.any_eq_true _ _).mp (List.mem_filter.mp hc).2 with ⟨k, hk, _⟩
    exact ⟨.entrySkipped k.spelling c.text, by simp [untypedNotice?, hk]⟩
  exact hnotices.imp fun _ _ hn => toldUntyped_of_untypedNotice hn

end Cursor

/-!
# What is told of an object literal
-/

namespace PropTable

theorem debugNotices_enterPair (o : InferenceOptions) (object pair : Cursor) (t : PropTable) :
    (enterPair o object pair t).debugNotices =
      if pair.isChildOf object then (pair.pairNotice? o).toList else [] := by
  unfold enterPair Cursor.pairNotice?
  split
  · cases pair.fieldNamed .key with
    | none =>
        rfl
    | some key =>
        cases pair.fieldNamed .value with
        | none =>
            rfl
        | some value =>
            cases hn : key.memberName? <;> simp [hn, Notice.level]
  · rfl

theorem debugNotices_tellUntyped (cs : List Cursor) :
    (tellUntyped cs).debugNotices =
      (cs.filter Cursor.isUntyped).filterMap Cursor.untypedNotice? := by
  induction cs with
  | nil =>
      rfl
  | cons c rest ih =>
      unfold tellUntyped
      cases hk : c.kind? with
      | none =>
          simp [hk, Cursor.isUntyped, ih]
      | some k =>
          by_cases hin : untypedKinds.contains k = true
          · simp_all [Cursor.isUntyped, Cursor.untypedNotice?, Notice.level]
          · simp_all [Cursor.isUntyped]

/-- The pairs of the literal itself are told of first. -/
theorem debugNotices_ofObject (o : InferenceOptions) (object : Cursor) :
    (ofObject o object).debugNotices =
      (object.namedChildren.filter (Cursor.isA .pair)).filterMap (Cursor.pairNotice? o) ++
        (object.namedChildren.filter Cursor.isUntyped).filterMap Cursor.untypedNotice? := by
  have hk : Kind.pair ∈ Kind.handled := by decide
  have hfold := Logged.debugNotices_foldlM
    (f := fun s d =>
      (Handlers.empty.on Kind.pair.spelling (enterPair o object)).dispatch d s)
    (g := fun d =>
      (if d.isChildOf object then if d.isA .pair then d.pairNotice? o else none
       else none).toList)
    (by
      intro s x
      rw [Handlers.dispatch_on hk]
      by_cases ha : x.isA .pair
      · rw [if_pos ha]
        by_cases hc : x.isChildOf object <;> simp [ha, hc, debugNotices_enterPair, Notice.level]
      · simp [ha])
    object.nodes empty
  unfold ofObject
  simp only [walk_eq_foldlM, Logged.debugNotices_bind, hfold, debugNotices_tellUntyped,
    Logged.debugNotices_pure, List.append_nil, ← List.filterMap_eq_flatMap_toList]
  congr 1
  rw [← Cursor.filter_nodes_isChildOf, List.filterMap_filter, List.filterMap_filter]

end PropTable

/-!
# What is told of the entries
-/

namespace Notice

/-- The prop and the type that a notice tells of. -/
def inferred? : Notice → Option (Text × Text)
  | propInferred name type => some (name, type)
  | _ => none

theorem inferred?_eq_some {n : Notice} {name type : Text} :
    n.inferred? = some (name, type) ↔ n = propInferred name type := by
  cases n <;> simp [inferred?]

/-- The last notice about a prop, among others that tell of no prop. -/
theorem exists_last_inferred {ns : List Notice} {front back : List (Text × Text)}
    {name type : Text} (h : ns.filterMap inferred? = front ++ (name, type) :: back)
    (hback : ∀ p ∈ back, p.1 ≠ name) :
    ∃ before after, ns = before ++ propInferred name type :: after ∧
      ∀ other, propInferred name other ∉ after := by
  rcases List.filterMap_eq_append_iff.mp h with ⟨before, rest, rfl, _, hrest⟩
  rcases List.filterMap_eq_cons_iff.mp hrest with ⟨passed, n, after, rfl, _, hn, hafter⟩
  obtain rfl := inferred?_eq_some.mp hn
  refine ⟨before ++ passed, after, by simp, ?_⟩
  intro other hmem
  have hother : (name, other) ∈ back := by
    rw [← hafter]
    exact List.mem_filterMap.mpr ⟨_, hmem, rfl⟩
  exact hback (name, other) hother rfl

end Notice

theorem Cursor.inferred?_pairNotice? (o : InferenceOptions) (pair : Cursor) :
    (pair.pairNotice? o).bind Notice.inferred? =
      (pair.prop? o).map fun p => (p.1, p.2.type) := by
  unfold pairNotice? prop?
  cases pair.fieldNamed .key with
  | none =>
      rfl
  | some key =>
      cases pair.fieldNamed .value with
      | none =>
          rfl
      | some value =>
          cases hn : key.memberName? <;> simp [hn, Notice.inferred?]

/-- The notices tell of the props of the literal, in their order. -/
theorem PropTable.inferred_ofObject (o : InferenceOptions) (object : Cursor) :
    (ofObject o object).debugNotices.filterMap Notice.inferred? =
      (object.propsOf o).map fun p => (p.1, p.2.type) := by
  have huntyped : ∀ c : Cursor, c.untypedNotice?.bind Notice.inferred? = none := by
    intro c
    cases hk : c.kind? <;> simp [Cursor.untypedNotice?, hk, Notice.inferred?]
  rw [debugNotices_ofObject, List.filterMap_append, List.filterMap_filterMap,
    List.filterMap_filterMap, Cursor.propsOf, List.map_filterMap]
  simp only [huntyped, Cursor.inferred?_pairNotice?]
  simp

/-!
# The notices
-/

/-- Each member of an object literal is told of once, the pairs first, and the notices tell
what the table has. -/
theorem every_member_is_told {source : Text} {m : Module} (hm : Module.parse source = .ok m)
    {object : Cursor} (hobject : object ∈ m.root.nodes) (hkind : object.isA .object = true)
    (o : InferenceOptions) :
    ∃ first second,
      (PropTable.ofObject o object).debugNotices = first ++ second ∧
      List.Forall₂ (Cursor.ToldPair o) (object.namedChildren.filter (Cursor.isA .pair)) first ∧
      List.Forall₂ Cursor.ToldUntyped (object.namedChildren.filter Cursor.isUntyped) second ∧
      (∀ n ∈ first, n.message = "Inferred prop type".toList ∨
        n.message = "Skipping computed propTypes key".toList) ∧
      (∀ n ∈ second, n.message = "Skipping propTypes entry".toList) ∧
      (∀ c ∈ object.namedChildren,
        c.isRemark = true ∨ c.isA .pair = true ∨ c.isUntyped = true) ∧
      (first ++ second).length = (object.namedChildren.filter fun c => !c.isRemark).length ∧
      (∀ name, name ∈ (PropTable.ofObject o object).value.names ↔
        ∃ type, Notice.propInferred name type ∈ first ++ second) ∧
      ∀ name entry, (PropTable.ofObject o object).value.find? name = some entry →
        ∃ before after, first ++ second = before ++ .propInferred name entry.type :: after ∧
          ∀ type, Notice.propInferred name type ∉ after := by
  have hsound : object.Sound := (Module.sound_root hm).nodes hobject
  have hkinds := fun c hc => hsound.exists_entryKind hkind (c := c) hc
  have hfirst := Cursor.forall₂_toldPair hsound o
  have hsecond := Cursor.forall₂_toldUntyped object.namedChildren
  have hinferred := PropTable.inferred_ofObject o object
  rw [PropTable.debugNotices_ofObject] at hinferred
  refine ⟨_, _, PropTable.debugNotices_ofObject o object, hfirst, hsecond, ?_, ?_, ?_, ?_, ?_, ?_⟩
  · intro n hn
    rcases List.mem_filterMap.mp hn with ⟨pair, _, hpair⟩
    cases Cursor.toldPair_of_pairNotice hpair with
    | inferred =>
        exact Or.inl rfl
    | skipped =>
        exact Or.inr rfl
  · intro n hn
    rcases List.mem_filterMap.mp hn with ⟨c, _, hc⟩
    cases Cursor.toldUntyped_of_untypedNotice hc with
    | skipped =>
        rfl
  · intro c hc
    rcases hkinds c hc with ⟨k, hk, hck⟩
    rcases Cursor.member_cases hk hck with ⟨_, hpair, _⟩ | ⟨_, _, huntyped⟩ | ⟨hremark, _, _⟩
    · exact Or.inr (Or.inl hpair)
    · exact Or.inr (Or.inr huntyped)
    · exact Or.inl hremark
  · rw [List.length_append, ← hfirst.length_eq, ← hsecond.length_eq,
      Cursor.length_filter_isRemark hkinds]
  · intro name
    rw [PropTable.value_ofObject, PropTable.names_ofList, List.mem_eraseDups]
    constructor
    · intro hname
      rcases List.mem_map.mp hname with ⟨p, hp, rfl⟩
      have hmem := List.mem_map_of_mem (f := fun p => (p.1, p.2.type)) hp
      rw [← hinferred] at hmem
      rcases List.mem_filterMap.mp hmem with ⟨n, hn, hinfers⟩
      rw [Notice.inferred?_eq_some.mp hinfers] at hn
      exact ⟨p.2.type, hn⟩
    · rintro ⟨type, hn⟩
      have hmem := List.mem_filterMap.mpr ⟨_, hn, Notice.inferred?_eq_some.mpr rfl⟩
      rw [hinferred] at hmem
      rcases List.mem_map.mp hmem with ⟨p, hp, heq⟩
      exact List.mem_map.mpr ⟨p, hp, (Prod.mk.inj heq).1⟩
  · intro name entry hentry
    rw [PropTable.value_ofObject, PropTable.find?_ofList] at hentry
    rcases PropTable.exists_last_of_lookup hentry with ⟨front, back, hprops, hback⟩
    rw [hprops, List.map_append, List.map_cons] at hinferred
    apply Notice.exists_last_inferred hinferred
    intro p hp
    rcases List.mem_map.mp hp with ⟨q, hq, rfl⟩
    exact hback q hq

/-- An object literal with every sort of member, and with another literal in each place that
can hold one. -/
def assortedSource : Text :=
  "x = \x7b // a\n b: \x7b a: 1 \x7d, ...\x7b a: 1 \x7d, [\x7b a: 1 \x7d]: 1, d, " ++
    "e() \x7b f(\x7b a: 1 \x7d) \x7d, 'b': React.PropTypes.bool \x7d"

theorem every_member_is_told_assorted :
    ∃ m object, Module.parse assortedSource = .ok m ∧ object ∈ m.root.nodes ∧
      object.isA .object = true ∧
      (PropTable.ofObject {} object).debugNotices =
        [.propInferred "b" "any", .keySkipped "[\x7b a: 1 \x7d]", .propInferred "b" "boolean",
          .entrySkipped "spread_element" "...\x7b a: 1 \x7d",
          .entrySkipped "shorthand_property_identifier" "d",
          .entrySkipped "method_definition" "e() \x7b f(\x7b a: 1 \x7d) \x7d"] ∧
      ∃ first second, (PropTable.ofObject {} object).debugNotices = first ++ second ∧
        List.Forall₂ (Cursor.ToldPair {}) (object.namedChildren.filter (Cursor.isA .pair)) first ∧
        List.Forall₂ Cursor.ToldUntyped (object.namedChildren.filter Cursor.isUntyped) second := by
  have hrun : (Module.parse assortedSource).toOption.any (fun m =>
      (m.root.nodes.find? (Cursor.isA .object)).any fun object =>
        (PropTable.ofObject {} object).debugNotices ==
          [.propInferred "b" "any", .keySkipped "[\x7b a: 1 \x7d]", .propInferred "b" "boolean",
            .entrySkipped "spread_element" "...\x7b a: 1 \x7d",
            .entrySkipped "shorthand_property_identifier" "d",
            .entrySkipped "method_definition" "e() \x7b f(\x7b a: 1 \x7d) \x7d"]) = true := by
    decide +kernel
  rcases Module.exists_of_any hrun with ⟨m, hm, hany⟩
  rcases (Option.any_eq_true _ _).mp hany with ⟨object, hfind, hnotices⟩
  have hobject := List.mem_of_find?_eq_some hfind
  have hkind := List.find?_some hfind
  rcases every_member_is_told hm hobject hkind {} with ⟨first, second, htold, hfirst, hsecond, _⟩
  exact ⟨m, object, hm, hobject, hkind, eq_of_beq hnotices, first, second, htold, hfirst, hsecond⟩

end ComponentDecl
