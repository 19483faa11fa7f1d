import ComponentDecl.Proofs.Comment
import ComponentDecl.Proofs.Component
import ComponentDecl.Proofs.Reader

/-!
# The structure of a declaration

Text of the source reaches a declaration as documentation, as names of members and as the
name of the class.  None of it changes how the rest of the declaration is read: comments
stay comments, literals are whole, and the braces of the code close at the very end.
-/

namespace ComponentDecl
namespace Reader

/-!
# Texts of the source
-/

theorem renders_of_all {p : Char → Bool} {t : Text} (hp : ∀ c, p c = true → isInert c = true)
    (ht : ∀ c ∈ t, p c = true) : Renders t [] := by
  apply renders_inert
  rw [List.all_eq_true]
  intro c hc
  exact hp c (ht c hc)

/-- A character that is not inert is one of five. -/
theorem isInert_of_not {p : Char → Bool}
    (hp : ['"', '\'', '/', '\x7b', '\x7d'].any p = false) (c : Char) (hc : p c = true) :
    isInert c = true := by
  by_contra hinert
  have hmem : c ∈ ['"', '\'', '/', '\x7b', '\x7d'] := by
    simp only [isInert, Lexeme.isQuote, Bool.not_eq_true, Bool.not_eq_false', Bool.or_eq_true,
      beq_iff_eq] at hinert
    simp only [List.mem_cons, List.not_mem_nil, or_false]
    tauto
  exact List.any_eq_false.mp hp c hmem hc

theorem renders_hex {ds : Text} (h : ∀ d ∈ ds, Lexeme.isHex d = true) : Renders ds [] :=
  renders_of_all (isInert_of_not (by decide)) h

/-- Names are inert up to the braces of complete escapes. -/
theorem renders_name {t : Text} (h : Lexeme.IsName t) : Renders t [] := by
  induction h with
  | nil =>
      exact renders_nil
  | @char c _ hc _ ih =>
      have hinert : isInert c = true :=
        isInert_of_not (p := Lexeme.isNameChar) (by decide) c hc
      exact (renders_inert (s := [c]) (by simpa using hinert)).append ih
  | escape he _ ih =>
      have hmark : Renders ['\\', 'u'] [] := renders_inert (by decide)
      cases he with
      | braced hds =>
          have hblock := hmark.append (renders_block (renders_hex hds))
          rw [← List.append_assoc, ← List.append_assoc] at hblock
          exact hblock.append ih
      | fixed hds =>
          exact (hmark.append (renders_hex hds)).append ih

theorem renders_member {t : Text} (h : IsMember (Lexeme.isLiteral · = true) t) :
    Renders t [] := by
  cases h with
  | name h =>
      exact renders_name h
  | numeral h =>
      exact renders_of_all (isInert_of_not (by decide)) h
  | plain h =>
      exact renders_of_all (isInert_of_not (by decide +kernel)) (all_of_isPlainName h)
  | string h =>
      exact renders_literal h

theorem renders_type {library : Text} (h : Lexeme.IsName library) (k : PropType) :
    Renders (k.declared library) [] := by
  cases k with
  | node =>
      exact (renders_name h).append (renders_inert (by decide))
  | element =>
      exact (renders_name h).append (renders_inert (by decide))
  | _ =>
      exact renders_inert rfl

end Reader

/-!
# Documentation that is written
-/

/-- The documentation of a prop between the marks of its comment. -/
def PropEntry.written (pad : Text) (p : Text × PropEntry) : List Text :=
  (p.2.doc.map (commentBody pad)).toList

/-- The documentation of a component, in the order in which it is written: that of the
props, then that of the class. -/
def Component.written (o : Options) (c : Component) : List Text :=
  ((c.props.map PropTable.entries).getD []).flatMap (PropEntry.written (o.indent ++ o.indent)) ++
    (c.doc.map (commentBody o.indent)).toList

namespace Reader

section Pieces

variable {pad : Text} (hpad : ∀ c ∈ pad, Text.isBlank c = true)

include hpad

theorem renders_blank : Renders pad [] :=
  renders_of_all (isInert_of_not (by decide)) hpad

theorem renders_docText {doc : Option Text} (h : ∀ d ∈ doc, Lexeme.NoEnd d) :
    Renders (docText pad doc) (doc.map (commentBody pad)).toList := by
  cases doc with
  | none =>
      exact renders_nil
  | some d =>
      have hcomment := renders_comment (noEnd_commentBody hpad (h d rfl))
      have htext : docText pad (some d) =
          pad ++ (['/', '*'] ++ commentBody pad d ++ ['*', '/'] ++ ['\n']) := by
        simp only [docText, commentText, List.append_assoc]
        rfl
      rw [htext]
      exact (renders_blank hpad).prepend (hcomment.push (renders_inert (by decide)))

theorem renders_propText {library : Text} (hlibrary : Lexeme.IsName library)
    {p : Text × PropEntry} (h : PropEntry.Sound (Lexeme.isLiteral · = true) library p) :
    Renders (propText pad p) (PropEntry.written pad p) := by
  rcases h.type with ⟨k, hk⟩
  have hmember : Renders (p.1 ++ "?: ".toList ++ p.2.type ++ ";\n".toList) [] := by
    rw [hk]
    exact (((renders_member h.name).append (renders_inert (by decide))).append
      (renders_type hlibrary k)).append (renders_inert (by decide))
  unfold propText PropEntry.written
  exact (renders_docText hpad h.doc).push ((renders_blank hpad).append hmember)

theorem renders_propTexts {library : Text} (hlibrary : Lexeme.IsName library)
    {ps : List (Text × PropEntry)}
    (h : ∀ p ∈ ps, PropEntry.Sound (Lexeme.isLiteral · = true) library p) :
    Renders (ps.flatMap (propText pad)) (ps.flatMap (PropEntry.written pad)) := by
  induction ps with
  | nil =>
      exact renders_nil
  | cons p ps ih =>
      rw [List.flatMap_cons, List.flatMap_cons]
      exact (renders_propText hpad hlibrary (h p List.mem_cons_self)).append
        (ih fun q hq => h q (List.mem_cons_of_mem p hq))

end Pieces

/-!
# The declaration
-/

section Declaration

variable {o : Options} (hlibrary : Lexeme.IsName o.library)
  (hinterface : Lexeme.IsName o.interfaceName) (hindent : ∀ c ∈ o.indent, Text.isBlank c = true)

include hlibrary hinterface hindent

theorem renders_interfaceText {props : Option PropTable}
    (h : ∀ table ∈ props, ∀ p ∈ table.entries,
      PropEntry.Sound (Lexeme.isLiteral · = true) o.library p) :
    Renders (interfaceText o.indent o.interfaceName props)
      (((props.map PropTable.entries).getD []).flatMap
        (PropEntry.written (o.indent ++ o.indent))) := by
  cases props with
  | none =>
      exact renders_nil
  | some table =>
      have hpad : ∀ c ∈ o.indent ++ o.indent, Text.isBlank c = true := by
        simpa using hindent
      have hmembers := renders_propTexts hpad hlibrary (h table rfl)
      have hline : Renders ("interface ".toList ++ o.interfaceName ++ [' ']) [] :=
        ((renders_inert (by decide)).append (renders_name hinterface)).append
          (renders_inert (by decide))
      have hblock : Renders (['\x7b'] ++ (['\n'] ++
          table.entries.flatMap (propText (o.indent ++ o.indent)) ++ o.indent) ++ ['\x7d'])
          (table.entries.flatMap (PropEntry.written (o.indent ++ o.indent))) :=
        renders_block (((renders_inert (by decide)).prepend hmembers).push
          (renders_blank hindent))
      have htext : interfaceText o.indent o.interfaceName (some table) =
          o.indent ++ (("interface ".toList ++ o.interfaceName ++ [' ']) ++
            ((['\x7b'] ++ (['\n'] ++ table.entries.flatMap (propText (o.indent ++ o.indent)) ++
              o.indent) ++ ['\x7d']) ++ "\n\n".toList)) := by
        -- the braces are cut out of the literal texts around them
        change o.indent ++ ("interface ".toList ++ o.interfaceName ++
          ([' '] ++ (['\x7b'] ++ ['\n']))) ++
            table.entries.flatMap (propText (o.indent ++ o.indent)) ++
              (o.indent ++ (['\x7d'] ++ "\n\n".toList)) = _
        simp only [List.append_assoc]
      rw [htext]
      exact (renders_blank hindent).prepend
        (hline.prepend (hblock.push (renders_inert (by decide))))

theorem renders_classText {name : Text} (hname : Lexeme.IsName name)
    (props : Option PropTable) : Renders (classText o name props) [] := by
  have hargument : Renders ((props.map fun _ => o.interfaceName).getD "any".toList) [] := by
    cases props with
    | none =>
        exact renders_inert rfl
    | some table =>
        exact renders_name hinterface
  have hheader : Renders ("export default ".toList ++ ("class ".toList ++ name ++
      " extends ".toList ++ (o.library ++ ".Component".toList))) [] :=
    (renders_inert (by decide)).append ((((renders_inert (by decide)).append
      (renders_name hname)).append (renders_inert (by decide))).append
        ((renders_name hlibrary).append (renders_inert (by decide))))
  have harguments : Renders (('<' :: (props.map fun _ => o.interfaceName).getD "any".toList) ++
      ", any> ".toList) [] :=
    ((renders_inert (s := ['<']) (by decide)).append hargument).append
      (renders_inert (by decide))
  have hblock : Renders (['\x7b'] ++ (['\n'] ++ o.indent) ++ ['\x7d']) [] :=
    renders_block ((renders_inert (by decide)).append (renders_blank hindent))
  have htext : classText o name props =
      o.indent ++ (("export default ".toList ++ ("class ".toList ++ name ++
        " extends ".toList ++ (o.library ++ ".Component".toList))) ++
          ((('<' :: (props.map fun _ => o.interfaceName).getD "any".toList) ++
            ", any> ".toList) ++
              ((['\x7b'] ++ (['\n'] ++ o.indent) ++ ['\x7d']) ++ ['\n']))) := by
    change o.indent ++ "export default ".toList ++ ("class ".toList ++ name ++
      " extends ".toList ++ (o.library ++ ".Component".toList) ++
        ('<' :: (props.map fun _ => o.interfaceName).getD "any".toList) ++
          (", any> ".toList ++ ['\x7b'])) ++ (['\n'] ++ o.indent ++ (['\x7d'] ++ ['\n'])) = _
    simp only [List.append_assoc]
  rw [htext]
  exact (renders_blank hindent).append (hheader.append (harguments.append
    (hblock.append (renders_inert (by decide)))))

theorem renders_componentText {c : Component}
    (h : c.Sound (Lexeme.isLiteral · = true) o.library) :
    Renders (componentText o c) (c.written o) := by
  unfold componentText Component.written
  exact ((renders_interfaceText hlibrary hinterface hindent h.props).append
    (renders_docText hindent h.doc)).push
      (renders_classText hlibrary hinterface hindent h.name c.props)

end Declaration

/-- A text without quotes and backslashes is a literal between quotes. -/
theorem isLiteral_quoted {t : Text} (h : ∀ c ∈ t, c ≠ '\'' ∧ c ≠ '\\') :
    Lexeme.isLiteral ('\'' :: (t ++ ['\''])) = true := by
  rw [Lexeme.isLiteral, Lexeme.isLiteralTail_append h]
  rfl

theorem renders_importLine {library libraryModule : Text} (hlibrary : Lexeme.IsName library)
    (hmodule : ∀ c ∈ libraryModule, c ≠ '\'' ∧ c ≠ '\\') :
    Renders (Step.importLine library libraryModule) [] := by
  have hliteral := renders_literal (isLiteral_quoted hmodule)
  have hline := (((renders_inert (s := "import * as ".toList) (by decide)).append
    (renders_name hlibrary)).append (renders_inert (s := " from ".toList) (by decide))).append
      (hliteral.append (renders_inert (s := ";".toList) (by decide)))
  have htext : Step.importLine library libraryModule =
      "import * as ".toList ++ library ++ " from ".toList ++
        ('\'' :: (libraryModule ++ ['\'']) ++ ";".toList) := by
    change "import * as ".toList ++ library ++ (" from ".toList ++ ['\'']) ++ libraryModule ++
      (['\''] ++ ";".toList) = _
    simp
  rw [htext]
  exact hline

/-- The parts of a declaration: its first words, the block and the end of the last line. -/
theorem text_eq_block (o : Options) (name : Text) (c : Option Component) :
    Declaration.text o name c =
      "declare module ".toList ++ ('\'' :: (name ++ ['\''])) ++ [' '] ++
        (['\x7b'] ++ (['\n'] ++ o.indent ++ Step.importLine o.library o.libraryModule ++
          "\n\n".toList ++ (c.map (componentText o)).getD [])) ++ ['\x7d', '\n'] := by
  rw [Declaration.text_eq]
  change "declare module ".toList ++ ['\''] ++ name ++ ['\''] ++ ([' '] ++ (['\x7b'] ++ ['\n'])) ++
    o.indent ++ Step.importLine o.library o.libraryModule ++ "\n\n".toList ++
      (c.map (componentText o)).getD [] ++ ['\x7d', '\n'] = _
  have hquoted : '\'' :: (name ++ ['\'']) = ['\''] ++ (name ++ ['\'']) := rfl
  rw [hquoted]
  simp only [List.append_assoc]

/-- What is said of the contents of a declaration carries over to the whole. -/
theorem reads_text {o : Options} {name : Text} (hname : ∀ c ∈ name, c ≠ '\'' ∧ c ≠ '\\')
    (hmodule : ∀ c ∈ o.libraryModule, c ≠ '\'' ∧ c ≠ '\\')
    (hlibrary : Lexeme.IsName o.library) (hindent : ∀ c ∈ o.indent, Text.isBlank c = true)
    {c : Option Component} {docs : List Text}
    (hcontents : Renders ((c.map (componentText o)).getD []) docs) :
    ∃ tokens, Reads (Declaration.text o name c) tokens ∧ comments tokens = docs ∧
      ClosesAtEnd tokens := by
  have hinner := ((((renders_inert (s := ['\n']) (by decide)).append
    (renders_blank hindent)).append (renders_importLine hlibrary hmodule)).append
      (renders_inert (s := "\n\n".toList) (by decide))).prepend hcontents
  rcases hinner with ⟨inner, hreads, hbalanced, hcomments⟩
  have hwords : "declare module ".toList.all isInert = true := by decide
  have hhead := ((reads_inert hwords).append (reads_literal (isLiteral_quoted hname))).append
    (reads_inert (s := [' ']) (by decide))
  have hopen : Reads ['\x7b'] [.plain '\x7b'] := reads_plain (by decide) (by decide)
  have hclose : Reads ['\x7d', '\n'] [.plain '\x7d', .plain '\n'] :=
    (reads_plain (by decide) (by decide)).append (reads_plain (by decide) (by decide))
  have hwhole := (hhead.append (hopen.append hreads)).append hclose
  rw [← text_eq_block] at hwhole
  refine ⟨_, hwhole, ?_, ?_⟩
  · simp only [comments_append, comments_map_plain, hcomments]
    simp [comments]
  · apply closesAtEnd_block _ hbalanced
    intro t ht
    rcases List.mem_append.mp ht with ht | ht
    · rcases List.mem_append.mp ht with ht | ht
      · exact opened_map_plain hwords t ht
      · rcases List.mem_singleton.mp ht with rfl
        rfl
    · rcases List.mem_singleton.mp ht with rfl
      rfl

end Reader

/-- Whatever an accepted source holds, the declaration reads as one block that closes at its
end, with nothing in comments but the documentation of the component.  A string of the
source that holds a comment has to be a literal for the reader as well. -/
theorem declaration_keeps_structure {source : Text} {m : Module}
    (hm : Module.parse source = .ok m)
    (hstrings : ∀ s ∈ m.root.nodes, s.isA .string = true →
      (∃ c ∈ s.tree.children, c.kind? = some .comment) → Lexeme.isLiteral s.text = true)
    {o : Options} {name : Text} (hname : ∀ c ∈ name, c ≠ '\'' ∧ c ≠ '\\')
    (hmodule : ∀ c ∈ o.libraryModule, c ≠ '\'' ∧ c ≠ '\\')
    (hlibrary : Lexeme.IsName o.library) (hinterface : Lexeme.IsName o.interfaceName)
    (hindent : ∀ c ∈ o.indent, Text.isBlank c = true) :
    ∃ t tokens, (Declaration.ofSource o name source).value = .ok t ∧
      Reader.read t = some tokens ∧
      Reader.comments tokens = ((m.selected o.inference).map (Component.written o)).getD [] ∧
      Reader.ClosesAtEnd tokens := by
  have hscanned : ∀ s ∈ m.root.nodes, s.IsScanned → Lexeme.isLiteral s.text = true := by
    intro s hs hscan
    by_cases hcomment : ∃ c ∈ s.tree.children, c.kind? = some .comment
    · exact hstrings s hs hscan.isA_string hcomment
    · apply hscan.isLiteral
      intro c hc hkind
      exact hcomment ⟨c, hc, hkind⟩
  have hcontents : Reader.Renders (((m.selected o.inference).map (componentText o)).getD [])
      (((m.selected o.inference).map (Component.written o)).getD []) := by
    cases hc : m.selected o.inference with
    | none =>
        exact Reader.renders_nil
    | some c =>
        exact Reader.renders_componentText hlibrary hinterface hindent
          (Module.selected_sound hm hscanned hc)
  rcases Reader.reads_text hname hmodule hlibrary hindent hcontents with
    ⟨tokens, hreads, hcomments, hcloses⟩
  exact ⟨_, tokens, (Declaration.ofSource_spec hm o name).1, hreads.read_eq, hcomments, hcloses⟩

/-- A component whose documentation, keys and names hold quotes, braces and comments. -/
def trickySource : Text :=
  "/** \x7ba\x7d */
  export default class A \x7b
    static propTypes = \x7b
      /** one '
        * two \x7b \" */
      \"\x7d'\": PropTypes.any,
      'x
/* y */': PropTypes.string,
      \\u\x7b62\x7d: PropTypes.func,
    \x7d;
  \x7d"

theorem declaration_keeps_structure_tricky :
    ∃ m t tokens, Module.parse trickySource = .ok m ∧
      (Declaration.ofSource {} "m" trickySource).value = .ok t ∧
      Reader.read t = some tokens ∧
      Reader.comments tokens =
        ((m.selected (Options.inference {})).map (Component.written {})).getD [] ∧
      Reader.ClosesAtEnd tokens := by
  have hchecked : (Module.parse trickySource).toOption.any (fun m =>
      m.root.nodes.all fun s => !(s.isA .string) || Lexeme.isLiteral s.text) = true := by
    decide +kernel
  rcases Module.exists_of_any hchecked with ⟨m, hm, hliterals⟩
  have hquotable : ("m".toList ++ Options.libraryModule {}).all
      (fun c => c != '\'' && c != '\\') = true := by decide
  have hquotes : ∀ c ∈ "m".toList ++ Options.libraryModule {}, c ≠ '\'' ∧ c ≠ '\\' := by
    intro c hc
    simpa using List.all_eq_true.mp hquotable c hc
  have hnames : (Options.library {} ++ Options.interfaceName {}).all Lexeme.isNameChar = true := by
    decide
  have hindent : (Options.indent {}).all Text.isBlank = true := by decide
  rw [List.all_append, Bool.and_eq_true] at hnames
  rcases declaration_keeps_structure hm
    (by
      intro s hs hstring _
      simpa [hstring] using List.all_eq_true.mp hliterals s hs)
    (fun c hc => hquotes c (List.mem_append_left _ hc))
    (fun c hc => hquotes c (List.mem_append_right _ hc))
    (Lexeme.isName_of_all (List.all_eq_true.mp hnames.1))
    (Lexeme.isName_of_all (List.all_eq_true.mp hnames.2))
    (List.all_eq_true.mp hindent) with
    ⟨t, tokens, hvalue, hread, hcomments, hcloses⟩
  exact ⟨m, t, tokens, hm, hvalue, hread, hcomments, hcloses⟩

-- a quote in a comment inside a string leaves the reader in a literal
example :
    (Declaration.ofSource {} "m"
      "export default class A \x7b static propTypes = \x7b \"a\n/*\"*/\": PropTypes.any \x7d \x7d").value.toOption.any
        (fun t => (Reader.read t).isNone) = true := by
  decide +kernel

end ComponentDecl
