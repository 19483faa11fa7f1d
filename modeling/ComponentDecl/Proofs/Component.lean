import ComponentDecl.Proofs.Parse.Module
import ComponentDecl.Proofs.Selection

/-!
# The texts of a component

Where the texts of a component come from.  Cursors of an accepted source stay in a sound
tree however they move, so the name of a class is a name, documentation holds no end mark
of a comment, and a member is named by a name, a number or a whole string.
-/

namespace ComponentDecl
namespace Cursor

/-!
# Cursors in sound trees
-/

/-- Cursors that see sound trees only: at themselves, above them and to their left. -/
def Sound : Cursor → Prop
  | root t => t.Sound
  | child p left _ t => p.Sound ∧ (∀ u ∈ left, u.Sound) ∧ t.Sound

theorem Sound.tree {c : Cursor} (h : c.Sound) : c.tree.Sound := by
  cases c with
  | root t =>
      exact h
  | child p left m t =>
      exact h.2.2

theorem Sound.parent? {c p : Cursor} (h : c.Sound) (hp : c.parent? = some p) : p.Sound := by
  cases c with
  | root t =>
      cases hp
  | child q left m t =>
      rcases Option.some.inj hp with rfl
      exact h.1

theorem Sound.nearest {p d : Cursor} {left : List Tree} (hp : p.Sound)
    (hleft : ∀ u ∈ left, u.Sound) (h : nearest p left = some d) : d.Sound := by
  induction left with
  | nil =>
      cases h
  | cons t left ih =>
      have hrest : ∀ u ∈ left, u.Sound := fun u hu => hleft u (List.mem_cons_of_mem t hu)
      unfold Cursor.nearest at h
      split at h
      · rcases Option.some.inj h with rfl
        exact ⟨hp, hrest, hleft t List.mem_cons_self⟩
      · exact ih hrest h

theorem Sound.previous? {c d : Cursor} (h : c.Sound) (hd : c.previous? = some d) :
    d.Sound := by
  cases c with
  | root t =>
      cases hd
  | child p left m t =>
      exact Sound.nearest h.1 h.2.1 hd

theorem Sound.row {p d : Cursor} {left ts : List Tree} {m : Mark} (hp : p.Sound)
    (hleft : ∀ u ∈ left, u.Sound) (hts : ∀ u ∈ ts, u.Sound) (hd : d ∈ row p left m ts) :
    d.Sound := by
  induction ts generalizing left m with
  | nil =>
      cases hd
  | cons t rest ih =>
      have ht : t.Sound := hts t List.mem_cons_self
      rcases List.mem_cons.mp hd with rfl | hd
      · exact ⟨hp, hleft, ht⟩
      · exact ih (List.forall_mem_cons.mpr ⟨ht, hleft⟩)
          (fun u hu => hts u (List.mem_cons_of_mem t hu)) hd

theorem Sound.children {c d : Cursor} (h : c.Sound) (hd : d ∈ c.children) : d.Sound := by
  have hrow := (List.mem_filter.mp hd).1
  exact Sound.row h (by simp) h.tree.children hrow

theorem exists_mem_row {p : Cursor} {left ts : List Tree} {m : Mark} {t : Tree} (ht : t ∈ ts) :
    ∃ d ∈ row p left m ts, d.tree = t := by
  induction ts generalizing left m with
  | nil =>
      cases ht
  | cons u rest ih =>
      rcases List.mem_cons.mp ht with rfl | ht
      · exact ⟨_, List.mem_cons_self, rfl⟩
      · rcases ih ht with ⟨d, hd, htree⟩
        exact ⟨d, List.mem_cons_of_mem _ hd, htree⟩

theorem exists_mem_children {c : Cursor} {t : Tree} (ht : t ∈ c.tree.children)
    (hgap : t.isGap = false) : ∃ d ∈ c.children, d.tree = t := by
  rcases exists_mem_row ht with ⟨d, hd, rfl⟩
  exact ⟨d, List.mem_filter.mpr ⟨hd, by simp [hgap]⟩, rfl⟩

theorem fieldNamed_spec {f : Field} {c d : Cursor} (h : c.fieldNamed f = some d) :
    d ∈ c.namedChildren ∧ d.field = some f := by
  rcases Option.filter_eq_some_iff.mp h with ⟨hfind, hnamed⟩
  have hmem := List.mem_of_find?_eq_some hfind
  have hfield := List.find?_some hfind
  exact ⟨List.mem_filter.mpr ⟨hmem, hnamed⟩, by simpa using hfield⟩

theorem exists_fieldNamed {c : Cursor} {f : Field} (h : Tree.Fills f c.tree.children) :
    ∃ d, c.fieldNamed f = some d := by
  rcases h with ⟨⟨t, ht, hfield⟩, hnamed⟩
  have hgap : t.isGap = false := by
    cases t with
    | gap =>
        cases hfield
    | _ =>
        rfl
  rcases exists_mem_children ht hgap with ⟨d, hd, rfl⟩
  have hsome : (c.children.find? fun d => d.field == some f).isSome = true :=
    List.find?_isSome.mpr ⟨d, hd, beq_iff_eq.mpr hfield⟩
  rcases Option.isSome_iff_exists.mp hsome with ⟨e, he⟩
  have hfound := List.find?_some he
  refine ⟨e, Option.filter_eq_some_iff.mpr ⟨he, ?_⟩⟩
  apply hnamed
  · exact tree_mem_children (List.mem_of_find?_eq_some he)
  · exact eq_of_beq hfound

theorem Sound.fieldNamed {f : Field} {c d : Cursor} (h : c.Sound)
    (hd : c.fieldNamed f = some d) : d.Sound :=
  h.children (mem_children_of_mem_namedChildren (fieldNamed_spec hd).1)

/-!
# Cursors below a cursor
-/

mutual

theorem Sound.nodesOf {c x : Cursor} {t : Tree} (h : c.Sound) (ht : t.Sound)
    (hx : x ∈ nodesOf c t) : x.Sound := by
  cases t with
  | gap text =>
      simp [Cursor.nodesOf] at hx
  | token f text =>
      simp [Cursor.nodesOf] at hx
  | missing f name =>
      simp [Cursor.nodesOf] at hx
  | leaf f k text =>
      simp only [Cursor.nodesOf, List.mem_singleton] at hx
      exact hx ▸ h
  | branch f k cs =>
      simp only [Cursor.nodesOf, List.mem_cons] at hx
      rcases hx with rfl | hx
      · exact h
      · exact Sound.nodesOfRow h (by simp) ht.children hx

theorem Sound.nodesOfRow {p x : Cursor} {left : List Tree} {m : Mark} {ts : List Tree}
    (h : p.Sound) (hleft : ∀ u ∈ left, u.Sound) (hts : ∀ u ∈ ts, u.Sound)
    (hx : x ∈ nodesOfRow p left m ts) : x.Sound := by
  cases ts with
  | nil =>
      simp [Cursor.nodesOfRow] at hx
  | cons t rest =>
      have ht : t.Sound := hts t List.mem_cons_self
      simp only [Cursor.nodesOfRow, List.mem_append] at hx
      rcases hx with hx | hx
      · have hchild : (child p left m t).Sound := ⟨h, hleft, ht⟩
        exact Sound.nodesOf hchild ht hx
      · exact Sound.nodesOfRow h (List.forall_mem_cons.mpr ⟨ht, hleft⟩)
          (fun u hu => hts u (List.mem_cons_of_mem t hu)) hx

end

theorem Sound.nodes {c x : Cursor} (h : c.Sound) (hx : x ∈ c.nodes) : x.Sound :=
  Sound.nodesOf h h.tree hx

mutual

/-- What lies below a node of a tree is a node of the tree. -/
theorem mem_nodesOf_of_mem_nodes {c d x : Cursor} {t : Tree} (ht : c.tree = t)
    (hd : d ∈ nodesOf c t) (hx : x ∈ d.nodes) : x ∈ nodesOf c t := by
  cases t with
  | gap text =>
      simp [nodesOf] at hd
  | token f text =>
      simp [nodesOf] at hd
  | missing f name =>
      simp [nodesOf] at hd
  | leaf f k text =>
      simp only [nodesOf, List.mem_singleton] at hd
      rw [hd, nodes, ht] at hx
      exact hx
  | branch f k cs =>
      simp only [nodesOf, List.mem_cons] at hd
      rcases hd with rfl | hd
      · rw [nodes, ht] at hx
        exact hx
      · rw [nodesOf]
        exact List.mem_cons_of_mem c (mem_nodesOfRow_of_mem_nodes hd hx)

theorem mem_nodesOfRow_of_mem_nodes {p d x : Cursor} {left : List Tree} {m : Mark}
    {ts : List Tree} (hd : d ∈ nodesOfRow p left m ts) (hx : x ∈ d.nodes) :
    x ∈ nodesOfRow p left m ts := by
  cases ts with
  | nil =>
      simp [nodesOfRow] at hd
  | cons t rest =>
      simp only [nodesOfRow, List.mem_append] at hd ⊢
      rcases hd with hd | hd
      · exact Or.inl (mem_nodesOf_of_mem_nodes rfl hd hx)
      · exact Or.inr (mem_nodesOfRow_of_mem_nodes hd hx)

end

theorem mem_nodes_trans {c d x : Cursor} (hd : d ∈ c.nodes) (hx : x ∈ d.nodes) :
    x ∈ c.nodes :=
  mem_nodesOf_of_mem_nodes rfl hd hx

theorem mem_nodes_of_mem_namedChildren {c d : Cursor} (h : d ∈ c.namedChildren) :
    d ∈ c.nodes := by
  rw [← filter_nodes_isChildOf] at h
  exact (List.mem_filter.mp h).1

theorem fieldNamed_mem_nodes {f : Field} {c d x : Cursor} (hd : d ∈ c.nodes)
    (hx : d.fieldNamed f = some x) : x ∈ c.nodes :=
  mem_nodes_trans hd (mem_nodes_of_mem_namedChildren (fieldNamed_spec hx).1)

end Cursor

/-!
# Documentation
-/

theorem Text.stripEnd?_eq_some {tail t rest : Text} (h : stripEnd? tail t = some rest) :
    t = rest ++ tail := by
  rcases Option.map_eq_some_iff.mp h with ⟨r, hr, rfl⟩
  have ht := strip?_eq_some.mp hr
  rw [← List.reverse_inj, ht, List.reverse_append, List.reverse_reverse]

theorem docBody?_spec {comment body : Text} (h : docBody? comment = some body) :
    comment = ['/', '*'] ++ body ++ ['*', '/'] := by
  unfold docBody? at h
  rcases Option.bind_eq_some_iff.mp h with ⟨tail, htail, h⟩
  rcases Option.bind_eq_some_iff.mp h with ⟨b, hb, h⟩
  have hcomment := Text.strip?_eq_some.mp htail
  have hend := Text.stripEnd?_eq_some hb
  split at h
  · rcases Option.some.inj h with rfl
    rw [hcomment, hend]
    rfl
  · cases h

namespace Cursor

/-- A node in a sound tree is a leaf with a sound text or has sound children. -/
theorem Sound.shape {c : Cursor} {k : Kind} (h : c.Sound) (hk : c.kind? = some k) :
    Tree.LeafSound k c.text ∧ c.tree.children = [] ∨ Tree.BranchSound k c.tree.children := by
  have ht := h.tree
  unfold kind? at hk
  unfold text
  cases hc : c.tree with
  | leaf f j t =>
      rw [hc] at ht hk
      rcases Option.some.inj hk with rfl
      exact Or.inl ⟨Tree.sound_leaf.mp ht, rfl⟩
  | branch f j cs =>
      rw [hc] at ht hk
      rcases Option.some.inj hk with rfl
      exact Or.inr (Tree.sound_branch.mp ht).1
  | gap t =>
      rw [hc] at hk
      cases hk
  | token f t =>
      rw [hc] at hk
      cases hk
  | missing f n =>
      rw [hc] at hk
      cases hk

theorem Sound.text_leaf {c : Cursor} {k : Kind} (h : c.Sound) (hk : c.kind? = some k)
    (hbranch : ∀ cs, ¬ Tree.BranchSound k cs) : Tree.LeafSound k c.text := by
  rcases h.shape hk with ⟨hleaf, _⟩ | hsound
  · exact hleaf
  · exact absurd hsound (hbranch _)

theorem Sound.branchSound {c d : Cursor} {k : Kind} (h : c.Sound) (hk : c.isA k = true)
    (hd : d ∈ c.namedChildren) :
    Tree.BranchSound k c.tree.children ∧ d.tree ∈ c.tree.children := by
  have hchild := tree_mem_children (mem_children_of_mem_namedChildren hd)
  rcases h.shape (eq_of_beq hk) with ⟨_, hnil⟩ | hsound
  · rw [hnil] at hchild
    cases hchild
  · exact ⟨hsound, hchild⟩

theorem Sound.doc? {c : Cursor} {d : Text} (h : c.Sound) (hd : c.doc? = some d) :
    Lexeme.NoEnd d := by
  unfold Cursor.doc? at hd
  rcases Option.bind_eq_some_iff.mp hd with ⟨comment, hprevious, hd⟩
  split at hd
  · rename_i hcomment
    have hkind : comment.kind? = some .comment := by
      simpa [isComment, isA] using hcomment
    have hsound := (h.previous? hprevious).text_leaf hkind (by simp [Tree.BranchSound])
    exact hsound d (docBody?_spec hd)
  · cases hd

theorem Sound.documented {c : Cursor} (h : c.Sound) : c.documented.Sound := by
  unfold Cursor.documented
  split
  · rename_i p hp
    split
    · exact h.parent? hp
    · exact h
  · exact h

/-!
# Names of members
-/

/-- Whether the cursor is at a string that the scanner of strings found. -/
def IsScanned (c : Cursor) : Prop :=
  ∃ f cs t rest, c.tree = .branch f .string cs ∧
    Lexeme.string? t = some (.branch none .string cs, rest)

theorem IsScanned.isA_string {c : Cursor} (h : c.IsScanned) : c.isA .string = true := by
  rcases h with ⟨f, cs, t, rest, htree, _⟩
  simp [isA, kind?, htree, Tree.kind?]

theorem IsScanned.text_eq {c : Cursor} (h : c.IsScanned) :
    ∃ t tree rest, Lexeme.string? t = some (tree, rest) ∧ c.text = tree.text ∧
      c.tree.children = tree.children := by
  rcases h with ⟨f, cs, t, rest, htree, hstring⟩
  refine ⟨t, _, rest, hstring, ?_, by rw [htree]; rfl⟩
  rcases Lexeme.string?_eq_some hstring with ⟨q, trees, tail, _, _, _, heq⟩
  have hcs : cs = .token none [q] :: trees := by
    injection heq
  simp [text, htree, hcs, Tree.isGap, Tree.text]

theorem IsScanned.isString {c : Cursor} (h : c.IsScanned) : Lexeme.IsString c.text := by
  rcases h.text_eq with ⟨t, tree, rest, hstring, htext, _⟩
  rw [htext]
  exact Lexeme.string?_isString hstring

theorem IsScanned.isLiteral {c : Cursor} (h : c.IsScanned)
    (hc : ∀ child ∈ c.tree.children, child.kind? ≠ some .comment) :
    Lexeme.isLiteral c.text = true := by
  rcases h.text_eq with ⟨t, tree, rest, hstring, htext, hchildren⟩
  rw [htext]
  exact Lexeme.string?_isLiteral hstring (hchildren ▸ hc)

/-- A string in the place of a key is one that the scanner of strings found. -/
theorem Sound.isScanned {pair key : Cursor} (h : pair.Sound) (hpair : pair.isA .pair = true)
    (hkey : pair.fieldNamed .key = some key) (hstring : key.kind? = some .string) :
    key.IsScanned := by
  rcases fieldNamed_spec hkey with ⟨hmem, hfield⟩
  rcases h.branchSound hpair hmem with ⟨hbranch, hchild⟩
  have hsound : key.tree.Sound := (h.fieldNamed hkey).tree
  have hkeySound : key.tree.KeySound := hbranch.2.2 key.tree hchild hfield
  unfold kind? at hstring
  cases ht : key.tree with
  | branch f k cs =>
      rw [ht] at hstring hkeySound
      rcases Option.some.inj hstring with rfl
      rcases hkeySound with ⟨t, rest, hscan⟩
      exact ⟨f, cs, t, rest, ht, hscan⟩
  | leaf f k t =>
      rw [ht] at hstring hsound
      rcases Option.some.inj hstring with rfl
      exact absurd (Tree.sound_leaf.mp hsound) id
  | gap t =>
      rw [ht] at hstring
      cases hstring
  | token f t =>
      rw [ht] at hstring
      cases hstring
  | missing f n =>
      rw [ht] at hstring
      cases hstring

end Cursor

/-- Texts that can name a member: names, numbers and strings of which `P` holds. -/
inductive IsMember (P : Text → Prop) : Text → Prop where
  | name {t : Text} (h : Lexeme.IsName t) : IsMember P t
  | numeral {t : Text} (h : Lexeme.IsNumeral t) : IsMember P t
  | plain {t : Text} (h : isPlainName t = true) : IsMember P t
  | string {t : Text} (h : P t) : IsMember P t

theorem all_of_isPlainName {t : Text} (h : isPlainName t = true) :
    ∀ c ∈ t, (Text.isLetter c || Text.isNumeral c || c == '_' || c == '$') = true := by
  cases t with
  | nil =>
      simp
  | cons c t =>
      rw [isPlainName, Bool.and_eq_true, List.all_eq_true] at h
      rw [List.forall_mem_cons]
      refine ⟨?_, h.2⟩
      have hc := h.1
      simp only [Bool.or_eq_true] at hc ⊢
      tauto

/-- What the texts of a prop look like. -/
structure PropEntry.Sound (P : Text → Prop) (library : Text) (p : Text × PropEntry) : Prop where
  name : IsMember P p.1
  type : ∃ k, p.2.type = PropType.declared library k
  doc : ∀ d ∈ p.2.doc, Lexeme.NoEnd d

/-- What the texts of a component look like. -/
structure Component.Sound (P : Text → Prop) (library : Text) (c : Component) : Prop where
  name : Lexeme.IsName c.name
  doc : ∀ d ∈ c.doc, Lexeme.NoEnd d
  props : ∀ table ∈ c.props, ∀ p ∈ table.entries, PropEntry.Sound P library p

namespace PropTable

theorem mem_put {q : Text × PropEntry} {name : Text} {e : PropEntry}
    {ps : List (Text × PropEntry)} (h : q ∈ put name e ps) : q = (name, e) ∨ q ∈ ps := by
  induction ps with
  | nil =>
      exact Or.inl (List.mem_singleton.mp h)
  | cons p rest ih =>
      rcases p with ⟨n, d⟩
      unfold put at h
      split at h
      · rename_i hn
        rcases eq_of_beq hn with rfl
        rcases List.mem_cons.mp h with hq | hq
        · exact Or.inl hq
        · exact Or.inr (List.mem_cons_of_mem _ hq)
      · rcases List.mem_cons.mp h with rfl | hq
        · exact Or.inr List.mem_cons_self
        · rcases ih hq with hq | hq
          · exact Or.inl hq
          · exact Or.inr (List.mem_cons_of_mem _ hq)

theorem mem_foldl_insert {q : Text × PropEntry} {ps : List (Text × PropEntry)}
    {table : PropTable} (h : q ∈ (ps.foldl (fun t p => t.insert p.1 p.2) table).entries) :
    q ∈ table.entries ∨ q ∈ ps := by
  induction ps generalizing table with
  | nil =>
      exact Or.inl h
  | cons p rest ih =>
      rcases ih h with hq | hq
      · rcases mem_put hq with rfl | hq
        · exact Or.inr List.mem_cons_self
        · exact Or.inl hq
      · exact Or.inr (List.mem_cons_of_mem p hq)

/-- A table holds no other entries than the props it was made of. -/
theorem mem_ofList {q : Text × PropEntry} {ps : List (Text × PropEntry)}
    (h : q ∈ (ofList ps).entries) : q ∈ ps := by
  rcases mem_foldl_insert h with hq | hq
  · cases hq
  · exact hq

end PropTable

namespace Cursor

variable {P : Text → Prop}

theorem Sound.memberName? {pair key : Cursor} {name : Text} (h : pair.Sound)
    (hpair : pair.isA .pair = true) (hkey : pair.fieldNamed .key = some key)
    (hP : key.IsScanned → P key.text) (hname : key.memberName? = some name) :
    IsMember P name := by
  have hsound := h.fieldNamed hkey
  unfold Cursor.memberName? at hname
  split at hname
  · rename_i hk
    rcases Option.some.inj hname with rfl
    exact .name (hsound.text_leaf hk (by simp [Tree.BranchSound])).1
  · rename_i hk
    rcases Option.some.inj hname with rfl
    exact .name (hsound.text_leaf hk (by simp [Tree.BranchSound])).1
  · rename_i hk
    rcases Option.some.inj hname with rfl
    exact .numeral (hsound.text_leaf hk (by simp [Tree.BranchSound])).1
  · rename_i hk
    rcases Option.some.inj hname with rfl
    split
    · rename_i hplain
      exact .plain hplain
    · exact .string (hP (h.isScanned hpair hkey hk))
  · cases hname

theorem Sound.prop? {pair : Cursor} {p : Text × PropEntry} (h : pair.Sound)
    (hpair : pair.isA .pair = true)
    (hP : ∀ key, pair.fieldNamed .key = some key → key.IsScanned → P key.text)
    {o : InferenceOptions} (hp : pair.prop? o = some p) : PropEntry.Sound P o.library p := by
  unfold Cursor.prop? at hp
  rcases Option.bind_eq_some_iff.mp hp with ⟨key, hkey, hp⟩
  rcases Option.bind_eq_some_iff.mp hp with ⟨value, _, hp⟩
  rcases Option.bind_eq_some_iff.mp hp with ⟨name, hname, hp⟩
  rcases Option.some.inj hp with rfl
  constructor
  · exact h.memberName? hpair hkey (hP key hkey) hname
  · exact ⟨_, rfl⟩
  · intro d hd
    exact h.doc? hd

theorem Sound.table? {r c : Cursor} {table : PropTable} (h : c.Sound) (hc : c ∈ r.nodes)
    (hP : ∀ s ∈ r.nodes, s.IsScanned → P s.text) {o : InferenceOptions}
    (htable : c.table? o = some table) :
    ∀ p ∈ table.entries, PropEntry.Sound P o.library p := by
  unfold Cursor.table? initializer? at htable
  rcases Option.bind_eq_some_iff.mp htable with ⟨value, hvalue, htable⟩
  rcases Option.bind_eq_some_iff.mp hvalue with ⟨body, hbody, hvalue⟩
  rcases Option.bind_eq_some_iff.mp hvalue with ⟨field, hfield, hvalue⟩
  have hfieldMem : field ∈ body.namedChildren :=
    (List.mem_filter.mp (List.mem_of_getLast? hfield)).1
  have hfieldSound : field.Sound :=
    (h.fieldNamed hbody).children (mem_children_of_mem_namedChildren hfieldMem)
  have hfieldNode : field ∈ r.nodes :=
    mem_nodes_trans (fieldNamed_mem_nodes hc hbody) (mem_nodes_of_mem_namedChildren hfieldMem)
  split at htable
  · rcases Option.some.inj htable with rfl
    intro p hp
    rcases List.mem_filterMap.mp (PropTable.mem_ofList hp) with ⟨pair, hpair, hprop⟩
    rcases List.mem_filter.mp hpair with ⟨hmem, hkind⟩
    have hpairSound : pair.Sound :=
      (hfieldSound.fieldNamed hvalue).children (mem_children_of_mem_namedChildren hmem)
    have hpairNode : pair ∈ r.nodes :=
      mem_nodes_trans (fieldNamed_mem_nodes hfieldNode hvalue)
        (mem_nodes_of_mem_namedChildren hmem)
    apply hpairSound.prop? hkind _ hprop
    intro key hkey hscanned
    exact hP key (fieldNamed_mem_nodes hpairNode hkey) hscanned
  · cases htable

/-- The name of a class is an identifier. -/
theorem Sound.className {e c n : Cursor} (h : c.Sound)
    (hclass : c.isA .classDeclaration = true ∨
      c.isA .classExpression = true ∧ c.parent? = some e)
    (hn : c.fieldNamed .name = some n) : Lexeme.IsName n.text := by
  rcases fieldNamed_spec hn with ⟨hmem, hfield⟩
  have hkind : n.kind? = some .identifier := by
    rcases hclass with hk | ⟨hk, _⟩
    · rcases h.branchSound hk hmem with ⟨hbranch, hchild⟩
      exact hbranch.2 n.tree hchild hfield
    · rcases h.branchSound hk hmem with ⟨hbranch, hchild⟩
      exact hbranch n.tree hchild hfield
  exact ((h.fieldNamed hn).text_leaf hkind (by simp [Tree.BranchSound])).1

end Cursor

/-!
# The declared component
-/

namespace Module

variable {P : Text → Prop}

theorem sound_root {source : Text} {m : Module} (hm : parse source = .ok m) : m.root.Sound :=
  sound_tree hm

theorem class?_spec {m : Module} {c n : Cursor} (h : m.class? = some (c, n)) :
    ∃ e, m.defaultExports.head? = some e ∧ e.classes.head? = some c ∧
      c.fieldNamed .name = some n := by
  unfold class? at h
  rcases Option.bind_eq_some_iff.mp h with ⟨e, he, h⟩
  rcases Option.bind_eq_some_iff.mp h with ⟨c', hc, h⟩
  rcases Option.bind_eq_some_iff.mp h with ⟨n', hn, h⟩
  rcases Prod.mk.inj (Option.some.inj h) with ⟨rfl, rfl⟩
  exact ⟨e, he, hc, hn⟩

theorem isA_of_defaultExports {m : Module} {e : Cursor} (he : m.defaultExports.head? = some e) :
    e.isA .exportStatement = true := by
  have hdefault := (List.mem_filter.mp (List.mem_of_mem_head? he)).2
  unfold Cursor.isDefaultExport at hdefault
  rw [Bool.and_eq_true] at hdefault
  exact hdefault.1

theorem mem_nodes_of_defaultExports {m : Module} {e : Cursor}
    (h : m.defaultExports.head? = some e) : e ∈ m.root.nodes :=
  (List.mem_filter.mp (List.mem_of_mem_head? h)).1

/-- The texts of the component of an accepted source. -/
theorem selected_sound {source : Text} {m : Module} (hm : parse source = .ok m)
    (hP : ∀ s ∈ m.root.nodes, s.IsScanned → P s.text) {o : InferenceOptions} {c : Component}
    (hc : m.selected o = some c) : c.Sound P o.library := by
  rcases Option.map_eq_some_iff.mp hc with ⟨⟨d, n⟩, hclass, rfl⟩
  rcases class?_spec hclass with ⟨e, he, hd, hn⟩
  have hnode : d ∈ m.root.nodes :=
    Cursor.mem_nodes_trans (mem_nodes_of_defaultExports he)
      (Cursor.mem_classes.mp (List.mem_of_mem_head? hd)).1
  have hsound : d.Sound := (sound_root hm).nodes hnode
  constructor
  · exact hsound.className (Cursor.mem_classes.mp (List.mem_of_mem_head? hd)).2 hn
  · intro doc hdoc
    exact hsound.documented.doc? hdoc
  · intro table htable
    exact hsound.table? hnode hP htable

end Module
end ComponentDecl
