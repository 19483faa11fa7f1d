import ComponentDecl.Proofs.Component

/-!
# The table of an object literal

The walk that fills a table meets the pairs of every object below the literal.  The table
is nevertheless the one of the literal's own pairs, inserted in source order: each name
stands where it was first met, with the entry of the pair that gave it last.
-/

namespace ComponentDecl
namespace Cursor

/-!
# What a pair gives
-/

/-- The kinds of keys that name a member. -/
def namingKinds : List Kind :=
  [.propertyIdentifier, .identifier, .number, .string]

/-- Whether a node is a pair with a key that names a member. -/
def isNamedPair (c : Cursor) : Bool :=
  c.isA .pair && (c.fieldNamed .key).any fun key => namingKinds.any fun k => key.isA k

/-- The pairs of an object literal whose keys name members, in source order. -/
def namedPairs (object : Cursor) : List Cursor :=
  object.namedChildren.filter isNamedPair

/-- A pair gives the name of its key, with the type of its value and the documentation in
front of the pair. -/
structure Gives (o : InferenceOptions) (pair : Cursor) (p : Text × PropEntry) : Prop where
  name : ∃ key, pair.fieldNamed .key = some key ∧ key.memberName? = some p.1
  type : ∃ value, pair.fieldNamed .value = some value ∧ p.2.type = value.tree.declaredType o
  doc : p.2.doc = pair.doc?

theorem gives_iff {o : InferenceOptions} {pair : Cursor} {p : Text × PropEntry} :
    Gives o pair p ↔ pair.prop? o = some p := by
  constructor
  · intro h
    rcases h with ⟨⟨key, hkey, hname⟩, ⟨value, hvalue, htype⟩, hdoc⟩
    rcases p with ⟨name, type, doc⟩
    subst htype hdoc
    simp [Cursor.prop?, hkey, hvalue, hname]
  · intro h
    unfold Cursor.prop? at h
    rcases Option.bind_eq_some_iff.mp h with ⟨key, hkey, h⟩
    rcases Option.bind_eq_some_iff.mp h with ⟨value, hvalue, h⟩
    rcases Option.bind_eq_some_iff.mp h with ⟨name, hname, h⟩
    rcases Option.some.inj h with rfl
    exact ⟨⟨key, hkey, hname⟩, ⟨value, hvalue, rfl⟩, rfl⟩

theorem memberName?_isSome (key : Cursor) :
    key.memberName?.isSome = namingKinds.any fun k => key.isA k := by
  unfold Cursor.memberName? isA
  cases key.kind? with
  | none =>
      rfl
  | some k =>
      cases k <;> rfl

theorem Sound.fills {pair : Cursor} (h : pair.Sound) (hpair : pair.isA .pair = true) :
    Tree.Fills .key pair.tree.children ∧ Tree.Fills .value pair.tree.children := by
  rcases h.shape (eq_of_beq hpair) with ⟨hleaf, _⟩ | hbranch
  · exact absurd hleaf id
  · exact ⟨hbranch.1, hbranch.2.1⟩

theorem Sound.exists_gives {pair : Cursor} (h : pair.Sound) (hpair : pair.isNamedPair = true)
    (o : InferenceOptions) : ∃ p, Gives o pair p := by
  rcases Bool.and_eq_true_iff.mp hpair with ⟨hkind, hnaming⟩
  rcases exists_fieldNamed (h.fills hkind).1 with ⟨key, hkey⟩
  rcases exists_fieldNamed (h.fills hkind).2 with ⟨value, hvalue⟩
  rw [hkey, Option.any_some, ← memberName?_isSome] at hnaming
  rcases Option.isSome_iff_exists.mp hnaming with ⟨name, hname⟩
  exact ⟨(name, ⟨value.tree.declaredType o, pair.doc?⟩), ⟨key, hkey, hname⟩,
    ⟨value, hvalue, rfl⟩, rfl⟩

theorem Gives.isNamedPair {o : InferenceOptions} {pair : Cursor} {p : Text × PropEntry}
    (h : Gives o pair p) (hpair : pair.isA .pair = true) : pair.isNamedPair = true := by
  rcases h.name with ⟨key, hkey, hname⟩
  unfold Cursor.isNamedPair
  rw [hpair, hkey, Option.any_some, ← memberName?_isSome, hname]
  rfl

theorem propsOf_eq (o : InferenceOptions) (object : Cursor) :
    object.propsOf o = object.namedPairs.filterMap (prop? o) := by
  unfold propsOf namedPairs
  rw [List.filterMap_filter, List.filterMap_filter]
  congr 1
  funext c
  by_cases hnamed : c.isNamedPair = true
  · have hpair : c.isA .pair = true := (Bool.and_eq_true_iff.mp hnamed).1
    rw [if_pos hnamed, if_pos hpair]
  · rw [if_neg hnamed, ite_eq_right_iff]
    intro hpair
    apply Option.eq_none_iff_forall_ne_some.mpr
    intro p hp
    exact hnamed ((gives_iff.mpr hp).isNamedPair hpair)

theorem Sound.namedPair {object pair : Cursor} (h : object.Sound)
    (hpair : pair ∈ object.namedPairs) : pair.Sound ∧ pair.isNamedPair = true := by
  rcases List.mem_filter.mp hpair with ⟨hmem, hnamed⟩
  exact ⟨h.children (mem_children_of_mem_namedChildren hmem), hnamed⟩

theorem forall₂_filterMap {α β : Type} {f : α → Option β} {xs : List α}
    (h : ∀ x ∈ xs, ∃ y, f x = some y) :
    List.Forall₂ (fun x y => f x = some y) xs (xs.filterMap f) := by
  induction xs with
  | nil =>
      exact .nil
  | cons x xs ih =>
      rcases List.forall_mem_cons.mp h with ⟨⟨y, hy⟩, hxs⟩
      rw [List.filterMap_cons_some hy]
      exact .cons hy (ih hxs)

theorem Sound.forall₂_propsOf {object : Cursor} (h : object.Sound) (o : InferenceOptions) :
    List.Forall₂ (Gives o) object.namedPairs (object.propsOf o) := by
  have hprops : List.Forall₂ (fun pair p => pair.prop? o = some p) object.namedPairs
      (object.namedPairs.filterMap fun pair => pair.prop? o) := by
    apply forall₂_filterMap
    intro pair hpair
    rcases h.namedPair hpair with ⟨hsound, hnamed⟩
    rcases hsound.exists_gives hnamed o with ⟨p, hp⟩
    exact ⟨p, gives_iff.mp hp⟩
  rw [propsOf_eq]
  exact hprops.imp fun _ _ hp => gives_iff.mpr hp

/-- Of the pairs that the walk meets, those with the literal as their parent count. -/
theorem mem_namedPairs {object pair : Cursor} :
    pair ∈ object.namedPairs ↔
      pair ∈ object.nodes ∧ pair.parent? = some object ∧ pair.isNamedPair = true := by
  unfold namedPairs
  rw [List.mem_filter, ← filter_nodes_isChildOf, List.mem_filter, and_assoc]
  constructor
  · intro h
    exact ⟨h.1, (isChildOf_iff_parent? h.1).mp h.2.1, h.2.2⟩
  · intro h
    exact ⟨h.1, (isChildOf_iff_parent? h.1).mpr h.2.1, h.2.2⟩

end Cursor

/-!
# Insertion in order
-/

namespace PropTable

/-- The names of a table, in order. -/
def names (t : PropTable) : List Text :=
  t.entries.map Prod.fst

/-- The entry of a name. -/
def find? (t : PropTable) (name : Text) : Option PropEntry :=
  t.entries.lookup name

theorem names_insert (t : PropTable) (name : Text) (e : PropEntry) :
    (t.insert name e).names = if name ∈ t.names then t.names else t.names ++ [name] := by
  rcases t with ⟨ps⟩
  show (put name e ps).map Prod.fst =
    if name ∈ ps.map Prod.fst then ps.map Prod.fst else ps.map Prod.fst ++ [name]
  induction ps with
  | nil =>
      rfl
  | cons p rest ih =>
      rcases p with ⟨n, d⟩
      unfold put
      by_cases hn : n = name
      · simp [hn]
      · have hne : ¬ name = n := fun h => hn h.symm
        rw [if_neg (by simpa using hn), List.map_cons, ih]
        simp only [List.map_cons, List.mem_cons, hne, false_or]
        split <;> rfl

theorem find?_insert (t : PropTable) (name : Text) (e : PropEntry) (n : Text) :
    (t.insert name e).find? n = if n = name then some e else t.find? n := by
  rcases t with ⟨ps⟩
  show (put name e ps).lookup n = if n = name then some e else ps.lookup n
  induction ps with
  | nil =>
      simp only [put, List.lookup_cons, List.lookup_nil]
      split <;> simp_all
  | cons p rest ih =>
      rcases p with ⟨k, d⟩
      unfold put
      split <;> simp only [List.lookup_cons] <;> grind

theorem ofList_concat (ps : List (Text × PropEntry)) (p : Text × PropEntry) :
    ofList (ps ++ [p]) = (ofList ps).insert p.1 p.2 := by
  simp [ofList]

/-- A name stands where it was first inserted. -/
theorem names_ofList (ps : List (Text × PropEntry)) :
    (ofList ps).names = (ps.map Prod.fst).eraseDups := by
  induction ps using List.reverseRecOn with
  | nil =>
      rfl
  | append_singleton ps p ih =>
      rw [ofList_concat, names_insert, ih, List.map_append, List.eraseDups_append]
      by_cases hp : p.1 ∈ ps.map Prod.fst
      · rw [if_pos (List.mem_eraseDups.mpr hp)]
        simp [List.removeAll, hp]
      · rw [if_neg (fun h => hp (List.mem_eraseDups.mp h))]
        simp [List.removeAll, hp, List.eraseDups_cons]

/-- The entry of a name is the one inserted last. -/
theorem find?_ofList (ps : List (Text × PropEntry)) (name : Text) :
    (ofList ps).find? name = ps.reverse.lookup name := by
  induction ps using List.reverseRecOn with
  | nil =>
      rfl
  | append_singleton ps p ih =>
      rw [ofList_concat, find?_insert, ih, List.reverse_concat, List.lookup_cons]
      by_cases hp : name = p.1
      · simp [hp]
      · rw [if_neg hp, beq_false_of_ne hp]

theorem nodup_names_ofList (ps : List (Text × PropEntry)) : (ofList ps).names.Nodup := by
  induction ps using List.reverseRecOn with
  | nil =>
      exact List.nodup_nil
  | append_singleton ps p ih =>
      rw [ofList_concat, names_insert]
      split
      · exact ih
      · rename_i hp
        exact List.nodup_append_comm.mp (List.nodup_cons.mpr ⟨hp, ih⟩)

/-- What is found from the end is the last one of its name. -/
theorem exists_last_of_lookup {ps : List (Text × PropEntry)} {name : Text} {e : PropEntry}
    (h : ps.reverse.lookup name = some e) :
    ∃ front back, ps = front ++ (name, e) :: back ∧ ∀ p ∈ back, p.1 ≠ name := by
  rcases List.lookup_eq_some_iff.mp h with ⟨back, front, heq, hback⟩
  refine ⟨front.reverse, back.reverse, ?_, ?_⟩
  · have hps := congrArg List.reverse heq
    simpa using hps
  · intro p hp
    have hne := hback p (List.mem_reverse.mp hp)
    exact (bne_iff_ne.mp hne).symm

/-- The entry of a name stands behind those of the names met before it. -/
theorem exists_entry {ps : List (Text × PropEntry)} {xs ys : List Text} {name : Text}
    (hps : ps.map Prod.fst = xs ++ name :: ys) (hnew : name ∉ xs) :
    ∃ front entry back, (ofList ps).entries = front ++ (name, entry) :: back ∧
      front.map Prod.fst = xs.eraseDups ∧ (∀ other ∈ front ++ back, other.1 ≠ name) ∧
      ps.reverse.lookup name = some entry := by
  have hnodup := nodup_names_ofList ps
  have hnames : (ofList ps).names =
      xs.eraseDups ++ name :: ((ys.removeAll xs).filter fun n => !n == name).eraseDups := by
    rw [names_ofList, hps, List.eraseDups_append, List.removeAll,
      List.filter_cons_of_pos (by simpa using hnew), List.eraseDups_cons]
    rfl
  rw [hnames] at hnodup
  rcases List.map_eq_append_iff.mp hnames with ⟨front, rest, hentries, hfront, hrest⟩
  rcases List.map_eq_cons_iff.mp hrest with ⟨⟨n, entry⟩, back, rfl, hn, hback⟩
  obtain rfl : n = name := hn
  have hother : ∀ other ∈ front ++ back, other.1 ≠ n := by
    intro other hmem heq
    apply (List.nodup_cons.mp (List.nodup_middle.mp hnodup)).1
    rw [← hfront, ← hback, ← List.map_append]
    exact List.mem_map.mpr ⟨other, hmem, heq⟩
  refine ⟨front, entry, back, hentries, hfront, hother, ?_⟩
  rw [← find?_ofList, find?, hentries, List.lookup_eq_some_iff]
  refine ⟨front, back, rfl, ?_⟩
  intro other hmem
  exact bne_iff_ne.mpr (hother other (List.mem_append_left _ hmem)).symm

end PropTable

/-!
# The table
-/

/-- The table of an object literal is the one of its own pairs, whatever objects stand
inside it. -/
theorem table_folds_own_pairs {source : Text} {m : Module} (hm : Module.parse source = .ok m)
    {object : Cursor} (hobject : object ∈ m.root.nodes) (o : InferenceOptions) :
    ∃ props : List (Text × PropEntry),
      List.Forall₂ (Cursor.Gives o) object.namedPairs props ∧
      (PropTable.ofObject o object).value =
        props.foldl (fun table p => table.insert p.1 p.2) PropTable.empty ∧
      (PropTable.ofObject o object).value.names.Nodup ∧
      (PropTable.ofObject o object).value.names = (props.map Prod.fst).eraseDups ∧
      (∀ name, (PropTable.ofObject o object).value.find? name = props.reverse.lookup name) ∧
      ∀ pair, pair ∈ object.namedPairs ↔
        pair ∈ object.nodes ∧ pair.parent? = some object ∧ pair.isNamedPair = true := by
  have hsound : object.Sound := (Module.sound_root hm).nodes hobject
  rw [PropTable.value_ofObject]
  refine ⟨object.propsOf o, hsound.forall₂_propsOf o, rfl, ?_, ?_, ?_, ?_⟩
  · exact PropTable.nodup_names_ofList _
  · exact PropTable.names_ofList _
  · exact PropTable.find?_ofList _
  · intro pair
    exact Cursor.mem_namedPairs

/-- An object literal with objects in a value and in a spread, and with one key in two
spellings. -/
def layeredSource : Text :=
  "x = \x7b /** 1 */ b: 1, c: \x7b a: 1 \x7d, ...\x7b d: 1 \x7d, 'b': React.PropTypes.bool \x7d"

theorem table_folds_own_pairs_layered :
    ∃ m object, Module.parse layeredSource = .ok m ∧ object ∈ m.root.nodes ∧
      object.isA .object = true ∧
      (PropTable.ofObject {} object).value.names = ["b", "c"] ∧
      (PropTable.ofObject {} object).value.find? "b" = some ⟨"boolean", none⟩ ∧
      ∃ props : List (Text × PropEntry),
        List.Forall₂ (Cursor.Gives {}) object.namedPairs props ∧
        (PropTable.ofObject {} object).value =
          props.foldl (fun table p => table.insert p.1 p.2) PropTable.empty := by
  have hrun : (Module.parse layeredSource).toOption.any (fun m =>
      (m.root.nodes.find? (Cursor.isA .object)).any fun object =>
        (PropTable.ofObject {} object).value.names == ["b", "c"] &&
          (PropTable.ofObject {} object).value.find? "b" == some ⟨"boolean", none⟩) = true := by
    decide +kernel
  rcases Module.exists_of_any hrun with ⟨m, hm, hany⟩
  rcases (Option.any_eq_true _ _).mp hany with ⟨object, hfind, htable⟩
  rcases Bool.and_eq_true_iff.mp htable with ⟨hnames, hentry⟩
  have hobject := List.mem_of_find?_eq_some hfind
  have hkind := List.find?_some hfind
  rcases table_folds_own_pairs hm hobject {} with ⟨props, hprops, hfold, _⟩
  exact ⟨m, object, hm, hobject, hkind, eq_of_beq hnames, eq_of_beq hentry, props, hprops, hfold⟩

end ComponentDecl
