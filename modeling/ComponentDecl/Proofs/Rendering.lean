import ComponentDecl.Proofs.Comment
import ComponentDecl.Proofs.Component

/-!
# What a declaration says

A declaration can be read back: from its text follow the name of the class, the names and
types of the members in their order, and the documentation up to what is lost when comments
are indented anew.  Each part is written so that its end can be found, whatever follows it.
-/

namespace ComponentDecl

/-- What a declaration says of a prop: its name, its type and the outline of its
documentation. -/
def PropEntry.outline (p : Text × PropEntry) : Text × Text × Option (List Text) :=
  (p.1, p.2.type, p.2.doc.map Text.outline)

/-- What a declaration says of a component. -/
structure Outline where
  name : Text
  doc : Option (List Text)
  props : Option (List (Text × Text × Option (List Text)))
  deriving DecidableEq, Repr

/-- The outline of a component. -/
def Component.outline (c : Component) : Outline :=
  ⟨c.name, c.doc.map Text.outline, c.props.map fun table => table.entries.map PropEntry.outline⟩

/-!
# Names of members
-/

theorem Lexeme.IsName.all {t : Text} (h : IsName t) :
    ∀ c ∈ t, (isNameChar c || isHex c || ['\\', 'u', '\x7b', '\x7d'].contains c) = true := by
  induction h with
  | nil =>
      simp
  | char hc _ ih =>
      rw [List.forall_mem_cons]
      exact ⟨by simp [hc], ih⟩
  | escape he _ ih =>
      rw [List.forall_mem_append]
      refine ⟨?_, ih⟩
      cases he with
      | braced hds =>
          intro c hc
          simp only [List.mem_append, List.mem_cons, List.not_mem_nil, or_false] at hc
          rcases hc with ((rfl | rfl | rfl) | hc) | rfl
          · rfl
          · rfl
          · rfl
          · simp [hds c hc]
          · rfl
      | fixed hds =>
          intro c hc
          simp only [List.mem_append, List.mem_cons, List.not_mem_nil, or_false] at hc
          rcases hc with (rfl | rfl) | hc
          · rfl
          · rfl
          · simp [hds c hc]

/-- The characters by which the parts of a declaration are told apart. -/
def delimiters : Text :=
  ['"', '\'', '/', '?', ';', ' ']

theorem notMem_delimiters {p : Char → Bool} {t : Text} (ht : ∀ c ∈ t, p c = true)
    (hp : delimiters.any p = false) : ∀ c ∈ t, c ∉ delimiters := by
  intro c hc hmem
  exact List.any_eq_false.mp hp c hmem (ht c hc)

theorem Lexeme.IsName.notMem {t : Text} (h : IsName t) : ∀ c ∈ t, c ∉ delimiters :=
  notMem_delimiters h.all (by decide)

theorem Lexeme.IsName.head? {t : Text} (h : IsName t) : t.head? ≠ some '\x7d' := by
  cases h with
  | nil =>
      simp
  | char hc _ =>
      intro heq
      rcases Option.some.inj heq with rfl
      exact absurd hc (by decide)
  | escape he _ =>
      cases he <;> simp

/-- A name of a member is a string, or it holds no delimiter and starts with no brace. -/
theorem IsMember.shape {t : Text} (h : IsMember Lexeme.IsString t) :
    Lexeme.IsString t ∨ (∀ c ∈ t, c ∉ delimiters) ∧ t.head? ≠ some '\x7d' := by
  have hhead : ∀ {p : Char → Bool}, p '\x7d' = false → (∀ c ∈ t, p c = true) →
      t.head? ≠ some '\x7d' := by
    intro p hp hall heq
    have htrue := hall '\x7d' (List.mem_of_mem_head? heq)
    rw [hp] at htrue
    cases htrue
  cases h with
  | name h =>
      exact Or.inr ⟨h.notMem, h.head?⟩
  | numeral h =>
      exact Or.inr ⟨notMem_delimiters h (by decide), hhead (by decide) h⟩
  | plain h =>
      have hall := all_of_isPlainName h
      exact Or.inr ⟨notMem_delimiters hall (by decide +kernel), hhead (by decide +kernel) hall⟩
  | string h =>
      exact Or.inl h

theorem append_inj_of_notMem {d : Char} {s t r r' : Text} (hs : ∀ c ∈ s, c ≠ d)
    (ht : ∀ c ∈ t, c ≠ d) (h : s ++ d :: r = t ++ d :: r') : s = t ∧ r = r' := by
  have hspan := Text.append_inj_of_span (p := fun c => c != d) (by simpa using hs)
    (by simpa using ht) (by simp) (by simp) h
  exact ⟨hspan.1, (List.cons.inj hspan.2).2⟩

/-- A string and a name without delimiters do not start alike. -/
theorem string_ne_name {s t r r' : Text} (hs : Lexeme.IsString s) (ht : ∀ c ∈ t, c ∉ delimiters)
    (h : s ++ r = t ++ '?' :: r') : False := by
  rcases hs.head_isQuote with ⟨q, tail, hq, rfl⟩
  rcases Lexeme.isQuote_iff.mp hq with rfl | rfl
  · cases t with
    | nil =>
        cases h
    | cons c t =>
        rcases (List.cons.inj h).1 with rfl
        exact ht '"' List.mem_cons_self (by decide)
  · cases t with
    | nil =>
        cases h
    | cons c t =>
        rcases (List.cons.inj h).1 with rfl
        exact ht '\'' List.mem_cons_self (by decide)

theorem member_split {n n' r r' : Text} (hn : IsMember Lexeme.IsString n)
    (hn' : IsMember Lexeme.IsString n') (h : n ++ '?' :: r = n' ++ '?' :: r') :
    n = n' ∧ r = r' := by
  rcases hn.shape with hs | ⟨hs, _⟩
  · rcases hn'.shape with hs' | ⟨hs', _⟩
    · rcases hs.append_inj hs' h with ⟨heq, hr⟩
      exact ⟨heq, (List.cons.inj hr).2⟩
    · exact absurd (string_ne_name hs hs' h) id
  · rcases hn'.shape with hs' | ⟨hs', _⟩
    · exact absurd (string_ne_name hs' hs h.symm) id
    · apply append_inj_of_notMem _ _ h
      · rintro c hc rfl
        exact hs _ hc (by decide)
      · rintro c hc rfl
        exact hs' _ hc (by decide)

/-- The first character of a member is neither a slash nor a brace. -/
theorem IsMember.head? {n : Text} (h : IsMember Lexeme.IsString n) (r : Text) :
    (n ++ '?' :: r).head? ≠ some '/' ∧ (n ++ '?' :: r).head? ≠ some '\x7d' := by
  rcases h.shape with hs | ⟨hs, hbrace⟩
  · rcases hs.head_isQuote with ⟨q, tail, hq, rfl⟩
    rcases Lexeme.isQuote_iff.mp hq with rfl | rfl <;> simp
  · cases n with
    | nil =>
        simp
    | cons c n =>
        refine ⟨?_, by simpa using hbrace⟩
        intro heq
        rcases Option.some.inj heq with rfl
        exact hs '/' List.mem_cons_self (by decide)

/-!
# Types
-/

theorem notMem_type {library : Text} (h : Lexeme.IsName library) (k : PropType) :
    ∀ c ∈ k.declared library, c ≠ ';' := by
  have hlibrary : ∀ c ∈ library, c ≠ ';' := by
    rintro c hc rfl
    exact h.notMem _ hc (by decide)
  have hclosed : ∀ {t : Text}, t.all (· != ';') = true → ∀ c ∈ t, c ≠ ';' := by
    intro t ht c hc
    simpa using List.all_eq_true.mp ht c hc
  cases k with
  | node =>
      exact List.forall_mem_append.mpr ⟨hlibrary, hclosed (by decide)⟩
  | element =>
      exact List.forall_mem_append.mpr ⟨hlibrary, hclosed (by decide)⟩
  | _ =>
      exact hclosed rfl

/-!
# Documentation
-/

theorem docText_some_append (pad d s : Text) :
    docText pad (some d) ++ s =
      pad ++ '/' :: '*' :: (commentBody pad d ++ '*' :: '/' :: '\n' :: s) := by
  change pad ++ ['/', '*'] ++ commentBody pad d ++ ['*', '/', '\n'] ++ s = _
  simp

/-- Documentation and the line behind it start with a slash, or there is only the line. -/
theorem docText_append (pad : Text) (doc : Option Text) (r : Text) :
    ∃ y, docText pad doc ++ (pad ++ r) = pad ++ y ∧ (y = r ∨ y.head? = some '/') := by
  cases doc with
  | none =>
      exact ⟨r, rfl, Or.inl rfl⟩
  | some d =>
      exact ⟨_, docText_some_append pad d (pad ++ r), Or.inr rfl⟩

theorem propText_append (pad : Text) (p : Text × PropEntry) (s : Text) :
    propText pad p ++ s =
      docText pad p.2.doc ++
        (pad ++ (p.1 ++ '?' :: (':' :: ' ' :: (p.2.type ++ ';' :: '\n' :: s)))) := by
  change docText pad p.2.doc ++ (pad ++ (p.1 ++ ['?', ':', ' '] ++ p.2.type ++ [';', '\n'])) ++
    s = _
  simp

section Pad

variable {pad : Text} (hpad : ∀ c ∈ pad, Text.isBlank c = true)

include hpad

/-- Documentation in front of a line that starts with no slash. -/
theorem docText_split {doc doc' : Option Text} {r r' : Text} (hdoc : ∀ d ∈ doc, Lexeme.NoEnd d)
    (hdoc' : ∀ d ∈ doc', Lexeme.NoEnd d) (hr : r.head? ≠ some '/') (hr' : r'.head? ≠ some '/')
    (h : docText pad doc ++ (pad ++ r) = docText pad doc' ++ (pad ++ r')) :
    doc.map Text.outline = doc'.map Text.outline ∧ r = r' := by
  cases doc with
  | none =>
      cases doc' with
      | none =>
          exact ⟨rfl, List.append_cancel_left h⟩
      | some d' =>
          rw [docText_some_append, docText, List.nil_append] at h
          rw [List.append_cancel_left h] at hr
          exact absurd rfl hr
  | some d =>
      cases doc' with
      | none =>
          rw [docText_some_append, docText, List.nil_append] at h
          rw [← List.append_cancel_left h] at hr'
          exact absurd rfl hr'
      | some d' =>
          rw [docText_some_append, docText_some_append] at h
          have hbody := (List.cons.inj (List.cons.inj (List.append_cancel_left h)).2).2
          rcases (noEnd_commentBody hpad (hdoc d rfl)).split
            (noEnd_commentBody hpad (hdoc' d' rfl)) hbody with ⟨hsame, hrest⟩
          refine ⟨congrArg some (commentBody_inj hsame), ?_⟩
          exact List.append_cancel_left (List.cons.inj hrest).2

/-!
# Members
-/

variable {library : Text} (hlibrary : Lexeme.IsName library)

include hlibrary

theorem propText_split {p p' : Text × PropEntry} {r r' : Text}
    (hp : PropEntry.Sound Lexeme.IsString library p)
    (hp' : PropEntry.Sound Lexeme.IsString library p')
    (h : propText pad p ++ r = propText pad p' ++ r') :
    PropEntry.outline p = PropEntry.outline p' ∧ r = r' := by
  rcases hp.type with ⟨k, hk⟩
  rcases hp'.type with ⟨k', hk'⟩
  rw [propText_append, propText_append] at h
  rcases docText_split hpad hp.doc hp'.doc (hp.name.head? _).1 (hp'.name.head? _).1 h with
    ⟨hdoc, hmember⟩
  rcases member_split hp.name hp'.name hmember with ⟨hname, htype⟩
  have hsemicolon := (List.cons.inj (List.cons.inj htype).2).2
  rcases append_inj_of_notMem (hk ▸ notMem_type hlibrary k) (hk' ▸ notMem_type hlibrary k')
    hsemicolon with ⟨htype, hrest⟩
  refine ⟨?_, (List.cons.inj hrest).2⟩
  unfold PropEntry.outline
  rw [hname, htype, hdoc]

end Pad

/-!
# Interfaces
-/

section Interface

variable {o : Options} (hlibrary : Lexeme.IsName o.library)
  (hindent : ∀ c ∈ o.indent, Text.isBlank c = true)

include hindent in
/-- A member does not start like the end of an interface. -/
theorem propText_ne_close {p : Text × PropEntry}
    (hp : PropEntry.Sound Lexeme.IsString o.library p) (r r' : Text) :
    propText (o.indent ++ o.indent) p ++ r ≠ o.indent ++ '\x7d' :: r' := by
  intro h
  rw [propText_append] at h
  rcases docText_append (o.indent ++ o.indent) p.2.doc
    (p.1 ++ '?' :: (':' :: ' ' :: (p.2.type ++ ';' :: '\n' :: r))) with ⟨y, hy, hhead⟩
  rw [hy, List.append_assoc] at h
  have hbrace : y.head? ≠ some '\x7d' := by
    rcases hhead with rfl | hslash
    · exact (hp.name.head? _).2
    · simp [hslash]
  have hclose := List.append_cancel_left h
  cases hu : o.indent with
  | nil =>
      rw [hu, List.nil_append] at hclose
      exact hbrace (by rw [hclose]; rfl)
  | cons c u =>
      rw [hu, List.cons_append] at hclose
      have hblank := hindent c (by rw [hu]; exact List.mem_cons_self)
      rw [(List.cons.inj hclose).1] at hblank
      exact absurd hblank (by decide)

include hlibrary hindent in
theorem propTexts_split {ps ps' : List (Text × PropEntry)} {r r' : Text}
    (hps : ∀ p ∈ ps, PropEntry.Sound Lexeme.IsString o.library p)
    (hps' : ∀ p ∈ ps', PropEntry.Sound Lexeme.IsString o.library p)
    (h : ps.flatMap (propText (o.indent ++ o.indent)) ++ (o.indent ++ '\x7d' :: r) =
      ps'.flatMap (propText (o.indent ++ o.indent)) ++ (o.indent ++ '\x7d' :: r')) :
    ps.map PropEntry.outline = ps'.map PropEntry.outline ∧ r = r' := by
  have hpad : ∀ c ∈ o.indent ++ o.indent, Text.isBlank c = true := by
    simpa using hindent
  induction ps generalizing ps' with
  | nil =>
      cases ps' with
      | nil =>
          exact ⟨rfl, (List.cons.inj (List.append_cancel_left h)).2⟩
      | cons p' ps' =>
          rw [List.flatMap_cons, List.append_assoc] at h
          exact absurd h.symm (propText_ne_close hindent (hps' p' List.mem_cons_self) _ _)
  | cons p ps ih =>
      cases ps' with
      | nil =>
          rw [List.flatMap_cons, List.append_assoc] at h
          exact absurd h (propText_ne_close hindent (hps p List.mem_cons_self) _ _)
      | cons p' ps' =>
          rw [List.flatMap_cons, List.flatMap_cons, List.append_assoc, List.append_assoc] at h
          rcases propText_split hpad hlibrary (hps p List.mem_cons_self)
            (hps' p' List.mem_cons_self) h with ⟨hfirst, hrest⟩
          rcases ih (fun q hq => hps q (List.mem_cons_of_mem p hq))
            (fun q hq => hps' q (List.mem_cons_of_mem p' hq)) hrest with ⟨hmore, hr⟩
          exact ⟨by rw [List.map_cons, List.map_cons, hfirst, hmore], hr⟩

theorem interfaceText_append (unit name : Text) (table : PropTable) (s : Text) :
    interfaceText unit name (some table) ++ s =
      unit ++ (('i' :: "nterface ".toList) ++ (name ++ (" \x7b\n".toList ++
        (table.entries.flatMap (propText (unit ++ unit)) ++
          (unit ++ '\x7d' :: '\n' :: '\n' :: s))))) := by
  change unit ++ (('i' :: "nterface ".toList) ++ name ++ " \x7b\n".toList) ++
    table.entries.flatMap (propText (unit ++ unit)) ++ (unit ++ ['\x7d', '\n', '\n']) ++ s = _
  simp only [List.append_assoc]
  rfl

theorem classText_eq (o : Options) (name : Text) (props : Option PropTable) :
    ∃ r, classText o name props =
      o.indent ++ (('e' :: "xport default class ".toList) ++ (name ++ ' ' :: r)) := by
  refine ⟨"extends ".toList ++ (o.componentBase ++ (('<' ::
    (props.map fun _ => o.interfaceName).getD "any".toList) ++ (", any> \x7b".toList ++
      (['\n'] ++ (o.indent ++ "\x7d\n".toList))))), ?_⟩
  change o.indent ++ "export default ".toList ++ ("class ".toList ++ name ++ (' ' ::
    "extends ".toList) ++ o.componentBase ++ ('<' ::
      (props.map fun _ => o.interfaceName).getD "any".toList) ++ ", any> \x7b".toList) ++
        (['\n'] ++ o.indent ++ "\x7d\n".toList) = _
  simp only [List.append_assoc]
  rfl

include hindent in
/-- The documentation and the class at the end of a component. -/
theorem classText_split {doc doc' : Option Text} {name name' : Text}
    {props props' : Option PropTable} (hdoc : ∀ d ∈ doc, Lexeme.NoEnd d)
    (hdoc' : ∀ d ∈ doc', Lexeme.NoEnd d) (hname : Lexeme.IsName name)
    (hname' : Lexeme.IsName name')
    (h : docText o.indent doc ++ classText o name props =
      docText o.indent doc' ++ classText o name' props') :
    doc.map Text.outline = doc'.map Text.outline ∧ name = name' := by
  rcases classText_eq o name props with ⟨r, hr⟩
  rcases classText_eq o name' props' with ⟨r', hr'⟩
  rw [hr, hr'] at h
  rcases docText_split hindent hdoc hdoc' (by simp) (by simp) h with ⟨houtline, hline⟩
  refine ⟨houtline, ?_⟩
  have hspace : ∀ {t : Text}, Lexeme.IsName t → ∀ c ∈ t, c ≠ ' ' := by
    rintro t ht c hc rfl
    exact ht.notMem _ hc (by decide)
  exact (append_inj_of_notMem (hspace hname) (hspace hname') (List.append_cancel_left hline)).1

/-- A component with an interface does not start like one without. -/
theorem interfaceText_ne (table : PropTable) (doc : Option Text) (name : Text)
    (props : Option PropTable) (s : Text) :
    interfaceText o.indent o.interfaceName (some table) ++ s ≠
      docText o.indent doc ++ classText o name props := by
  intro h
  rcases classText_eq o name props with ⟨r, hr⟩
  rcases docText_append o.indent doc
    (('e' :: "xport default class ".toList) ++ (name ++ ' ' :: r)) with ⟨y, hy, hhead⟩
  rw [interfaceText_append, hr, hy] at h
  have hcancel := List.append_cancel_left h
  rcases hhead with rfl | hslash
  · exact absurd (List.cons.inj hcancel).1 (by decide)
  · rw [← hcancel] at hslash
    exact absurd (Option.some.inj hslash) (by decide)

include hlibrary hindent in
/-- The text of a component determines its outline. -/
theorem componentText_inj {c c' : Component} (hc : c.Sound Lexeme.IsString o.library)
    (hc' : c'.Sound Lexeme.IsString o.library) (h : componentText o c = componentText o c') :
    c.outline = c'.outline := by
  rcases c with ⟨name, doc, props⟩
  rcases c' with ⟨name', doc', props'⟩
  unfold componentText at h
  rw [List.append_assoc, List.append_assoc] at h
  unfold Component.outline
  cases props with
  | none =>
      cases props' with
      | none =>
          rcases classText_split hindent hc.doc hc'.doc hc.name hc'.name h with ⟨hdoc, hname⟩
          rw [Outline.mk.injEq]
          exact ⟨hname, hdoc, rfl⟩
      | some table' =>
          exact absurd h.symm (interfaceText_ne table' doc name none _)
  | some table =>
      cases props' with
      | none =>
          exact absurd h (interfaceText_ne table doc' name' none _)
      | some table' =>
          rw [interfaceText_append, interfaceText_append] at h
          have hmembers := List.append_cancel_left (List.append_cancel_left
            (List.append_cancel_left (List.append_cancel_left h)))
          rcases propTexts_split hlibrary hindent (hc.props table rfl) (hc'.props table' rfl)
            hmembers with ⟨hentries, hrest⟩
          have htail := (List.cons.inj (List.cons.inj hrest).2).2
          rcases classText_split hindent hc.doc hc'.doc hc.name hc'.name htail with
            ⟨hdoc, hname⟩
          rw [Outline.mk.injEq]
          exact ⟨hname, hdoc, congrArg some hentries⟩

end Interface

/-!
# Declarations
-/

theorem Declaration.contents_inj {o : Options} {name : Text} {c c' : Option Component}
    (h : text o name c = text o name c') :
    (c.map (componentText o)).getD [] = (c'.map (componentText o)).getD [] := by
  rw [text_eq, text_eq] at h
  exact List.append_cancel_left (List.append_cancel_right h)

/-- The first type argument of the class is the interface if there is one. -/
theorem classText_argument (o : Options) (name : Text) (props : Option PropTable) :
    classText o name props = o.indent ++ "export default class ".toList ++ name ++
      " extends ".toList ++ o.library ++ ".Component<".toList ++
      (if props.isSome then o.interfaceName else "any".toList) ++ ", any> \x7b\n".toList ++
      o.indent ++ "\x7d\n".toList := by
  have hargument : (if props.isSome then o.interfaceName else "any".toList) =
      (props.map fun _ => o.interfaceName).getD "any".toList := by
    cases props <;> rfl
  rw [hargument]
  change o.indent ++ "export default ".toList ++ ("class ".toList ++ name ++
    " extends ".toList ++ (o.library ++ ".Component".toList) ++ (['<'] ++
      (props.map fun _ => o.interfaceName).getD "any".toList) ++ ", any> \x7b".toList) ++
        (['\n'] ++ o.indent ++ "\x7d\n".toList) =
    o.indent ++ ("export default ".toList ++ "class ".toList) ++ name ++
      " extends ".toList ++ o.library ++ (".Component".toList ++ ['<']) ++
      (props.map fun _ => o.interfaceName).getD "any".toList ++
      (", any> \x7b".toList ++ ['\n']) ++ o.indent ++ "\x7d\n".toList
  simp only [List.append_assoc]

/-- Sources with the same declaration have components with the same outline, or none; and
the class of a declaration takes the interface as its first type argument exactly if an
interface is declared. -/
theorem declaration_determines_outline {source source' : Text} {m m' : Module}
    (hm : Module.parse source = .ok m) (hm' : Module.parse source' = .ok m') {o : Options}
    (hlibrary : Lexeme.IsName o.library) (hindent : ∀ c ∈ o.indent, Text.isBlank c = true)
    (name : Text)
    (h : (Declaration.ofSource o name source).value =
      (Declaration.ofSource o name source').value) :
    (m.selected o.inference).map Component.outline =
        (m'.selected o.inference).map Component.outline ∧
      ∀ c, m.selected o.inference = some c →
        (Declaration.ofSource o name source).value =
          .ok (openingText o name ++ interfaceText o.indent o.interfaceName c.props ++
            docText o.indent c.doc ++ (o.indent ++ "export default class ".toList ++ c.name ++
              " extends ".toList ++ o.library ++ ".Component<".toList ++
              (if c.props.isSome then o.interfaceName else "any".toList) ++
              ", any> \x7b\n".toList ++ o.indent ++ "\x7d\n".toList) ++ "\x7d\n".toList) := by
  have hvalue := (Declaration.ofSource_spec hm o name).1
  have hvalue' := (Declaration.ofSource_spec hm' o name).1
  constructor
  · rw [hvalue, hvalue', Except.ok.injEq] at h
    have hcontents := Declaration.contents_inj h
    cases hc : m.selected o.inference with
    | none =>
        cases hc' : m'.selected o.inference with
        | none =>
            rfl
        | some c' =>
            rw [hc, hc'] at hcontents
            exact absurd hcontents.symm (componentText_ne_nil o c')
    | some c =>
        cases hc' : m'.selected o.inference with
        | none =>
            rw [hc, hc'] at hcontents
            exact absurd hcontents (componentText_ne_nil o c)
        | some c' =>
            rw [hc, hc'] at hcontents
            have hsound := Module.selected_sound hm (fun s _ hs => hs.isString) hc
            have hsound' := Module.selected_sound hm' (fun s _ hs => hs.isString) hc'
            exact congrArg some (componentText_inj hlibrary hindent hsound hsound' hcontents)
  · intro c hc
    rw [hvalue, hc, Declaration.text_eq, Option.map_some, Option.getD_some, componentText,
      classText_argument]
    simp only [List.append_assoc]

/-- A component with documentation and a key that looks like a member. -/
def spreadSource : Text :=
  "/** a
     b */
  export default class A \x7b
    static propTypes = \x7b
      /** x
        * y */
      'k?: any;': PropTypes.any,
      c: PropTypes.node
    \x7d;
  \x7d"

/-- The same component, written more tightly. -/
def tightSource : Text :=
  "/** a
b */ export default class A \x7b static propTypes = \x7b /** x\r
* y */ 'k?: any;': z, \"c\": React.PropTypes.node \x7d \x7d"

theorem declaration_determines_outline_tight :
    ∃ m m', Module.parse spreadSource = .ok m ∧ Module.parse tightSource = .ok m' ∧
      (m.selected (Options.inference {})).map Component.outline =
        (m'.selected (Options.inference {})).map Component.outline := by
  have hchecked : (Module.parse spreadSource).toOption.any (fun m =>
      (Module.parse tightSource).toOption.any fun m' =>
        Declaration.text {} "m" (m.selected (Options.inference {})) ==
          Declaration.text {} "m" (m'.selected (Options.inference {}))) = true := by
    decide +kernel
  rcases Module.exists_of_any hchecked with ⟨m, hm, hchecked⟩
  rcases Module.exists_of_any hchecked with ⟨m', hm', htexts⟩
  have hsame : (Declaration.ofSource {} "m" spreadSource).value =
      (Declaration.ofSource {} "m" tightSource).value := by
    rw [(Declaration.ofSource_spec hm {} "m").1, (Declaration.ofSource_spec hm' {} "m").1,
      eq_of_beq htexts]
  have hlibrary : (Options.library {}).all Lexeme.isNameChar = true := by decide
  have hindent : (Options.indent {}).all Text.isBlank = true := by decide
  have houtline := declaration_determines_outline hm hm'
    (Lexeme.isName_of_all (List.all_eq_true.mp hlibrary)) (List.all_eq_true.mp hindent) "m" hsame
  exact ⟨m, m', hm, hm', houtline.1⟩

end ComponentDecl
