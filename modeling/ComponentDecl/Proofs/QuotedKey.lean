import ComponentDecl.Proofs.Identifier
import ComponentDecl.Proofs.PropertyName

/-!
# Names from quoted keys

A string between the braces of an object literal names a member: by what stands between its
quotes if that is plain, by the whole literal if not.  The literal is always a legal name of
a property.  The content is one exactly if it has no stray.
-/

namespace ComponentDecl

/-- Legal names of properties in an interface, as far as strings give them: identifier names
and string literals. -/
def IsPropertyName (name : Text) : Prop :=
  Text.isIdentifierName name = true ∨ Lexeme.IsString name

/-!
# Quotes
-/

theorem Lexeme.StringTail.exists_content {q : Char} {t rest : Text} {trees : List Tree}
    (h : StringTail q t trees rest) : ∃ content, Tree.textAll trees = content ++ [q] := by
  induction h with
  | plain _ _ _ _ ih =>
      rcases ih with ⟨content, hcontent⟩
      exact ⟨_ ++ content, by rw [Tree.textAll, hcontent, List.append_assoc]⟩
  | escape _ _ ih =>
      rcases ih with ⟨content, hcontent⟩
      exact ⟨_ ++ content, by rw [Tree.textAll, hcontent, List.append_assoc]⟩
  | comment _ _ _ ih =>
      rcases ih with ⟨content, hcontent⟩
      exact ⟨_, by rw [Tree.textAll_append, hcontent, ← List.append_assoc]⟩
  | close =>
      exact ⟨_, Tree.textAll_append _ _⟩

/-- A string has its content between two quotes of one kind. -/
theorem Cursor.IsScanned.exists_content {key : Cursor} (h : key.IsScanned) :
    ∃ quote content, Lexeme.isQuote quote = true ∧ key.text = quote :: content ++ [quote] := by
  rcases h.text_eq with ⟨t, tree, rest, hstring, htext, _⟩
  rcases Lexeme.string?_eq_some hstring with ⟨q, trees, tail, hq, _, htail, rfl⟩
  rcases htail.exists_content with ⟨content, hcontent⟩
  refine ⟨q, content, hq, ?_⟩
  rw [htext, Tree.text, Tree.textAll, hcontent]
  rfl

theorem unquoted_quoted (quote : Char) (content : Text) :
    unquoted (quote :: content ++ [quote]) = content := by
  simp [unquoted]

/-!
# Plain names
-/

/-- A plain name begins with no quote. -/
theorem not_isString_of_isPlainName {t : Text} (h : isPlainName t = true) :
    ¬ Lexeme.IsString t := by
  intro hstring
  rcases hstring.head_isQuote with ⟨q, tail, hq, rfl⟩
  have hall := all_of_isPlainName h q List.mem_cons_self
  rcases Lexeme.isQuote_iff.mp hq with rfl | rfl
  · revert hall
    decide
  · revert hall
    decide

theorem isPropertyName_of_isPlainName {t : Text} (h : isPlainName t = true) :
    IsPropertyName t ↔ Text.hasStray t = false := by
  have hidentifier := Text.isIdentifierName_of_isPlainName h
  have hstring := not_isString_of_isPlainName h
  simp [IsPropertyName, hidentifier, hstring]

/-- A quoted key is written without its quotes exactly if its content is a plain name.  What
is written is a legal name of a property unless the content is plain and has a stray. -/
theorem quoted_key_names_property_iff {source : Text} {m : Module}
    (hm : Module.parse source = .ok m) {pair : Cursor} (hpair : pair ∈ m.root.nodes)
    (hkind : pair.isA .pair = true) {key : Cursor} (hkey : pair.fieldNamed .key = some key)
    (hstring : key.isA .string = true) :
    ∃ quote content name, Lexeme.isQuote quote = true ∧
      key.text = quote :: content ++ [quote] ∧ key.memberName? = some name ∧
      (isPlainName content = true → name = content ∧
        Text.isIdentifierName content = !Text.hasStray content) ∧
      (isPlainName content = false → name = key.text ∧ Lexeme.IsString name) ∧
      (IsPropertyName name ↔ ¬ (isPlainName content = true ∧ Text.hasStray content = true)) := by
  have hsound : pair.Sound := (Module.sound_root hm).nodes hpair
  have hscanned := hsound.isScanned hkind hkey (eq_of_beq hstring)
  rcases hscanned.exists_content with ⟨quote, content, hquote, htext⟩
  have hname : key.memberName? = some (if isPlainName content then content else key.text) := by
    have hk : key.kind? = some .string := eq_of_beq hstring
    unfold Cursor.memberName?
    rw [hk, htext, unquoted_quoted]
  refine ⟨quote, content, _, hquote, htext, hname, ?_, ?_, ?_⟩
  · intro hplain
    exact ⟨if_pos hplain, Text.isIdentifierName_of_isPlainName hplain⟩
  · intro hplain
    have hne : ¬ isPlainName content = true := by simp [hplain]
    rw [if_neg hne]
    exact ⟨rfl, hscanned.isString⟩
  · by_cases hplain : isPlainName content = true
    · rw [if_pos hplain, isPropertyName_of_isPlainName hplain]
      simp [hplain]
    · rw [if_neg hplain]
      simp [hplain, IsPropertyName, hscanned.isString]

/-- An object literal with a key in quotes that ends with a stray, and with other keys in
quotes. -/
def raisedSource : Text :=
  "x = \x7b 'a\u00B2': React.PropTypes.string, 'b': 1, \"c-d\": 1 \x7d"

theorem quoted_key_names_property_iff_raised :
    ∃ m pair key, Module.parse raisedSource = .ok m ∧ pair ∈ m.root.nodes ∧
      pair.isA .pair = true ∧ pair.fieldNamed .key = some key ∧ key.isA .string = true ∧
      key.text = "'b'".toList ∧
      ∃ quote content name, Lexeme.isQuote quote = true ∧
        key.text = quote :: content ++ [quote] ∧ key.memberName? = some name ∧
        (IsPropertyName name ↔
          ¬ (isPlainName content = true ∧ Text.hasStray content = true)) := by
  have hrun : (Module.parse raisedSource).toOption.any (fun m =>
      (m.root.nodes.find? fun pair => pair.isA .pair &&
        (pair.fieldNamed .key).any fun key => key.isA .string && key.text == "'b'".toList).isSome)
      = true := by
    decide +kernel
  rcases Module.exists_of_any hrun with ⟨m, hm, hfound⟩
  rcases Option.isSome_iff_exists.mp hfound with ⟨pair, hfind⟩
  have hpair := List.mem_of_find?_eq_some hfind
  have hfits := List.find?_some hfind
  rcases Bool.and_eq_true_iff.mp hfits with ⟨hkind, hany⟩
  rcases (Option.any_eq_true _ _).mp hany with ⟨key, hkey, hcheck⟩
  rcases Bool.and_eq_true_iff.mp hcheck with ⟨hstring, htext⟩
  rcases quoted_key_names_property_iff hm hpair hkind hkey hstring with
    ⟨quote, content, name, hquote, hcontent, hname, _, _, hlegal⟩
  exact ⟨m, pair, key, hm, hpair, hkind, hkey, hstring, eq_of_beq htext, quote, content, name,
    hquote, hcontent, hname, hlegal⟩

/-- The key with the stray loses its quotes, and what is left is no name of a property. -/
theorem exists_unquoted_key_with_stray :
    ∃ m object, Module.parse raisedSource = .ok m ∧ object ∈ m.root.nodes ∧
      object.isA .object = true ∧
      (PropTable.ofObject {} object).value.names = ["a\u00B2", "b", "\"c-d\""] ∧
      ¬ IsPropertyName "a\u00B2" := by
  have hrun : (Module.parse raisedSource).toOption.any (fun m =>
      (m.root.nodes.find? (Cursor.isA .object)).any fun object =>
        (PropTable.ofObject {} object).value.names == ["a\u00B2", "b", "\"c-d\""]) = true := by
    decide +kernel
  rcases Module.exists_of_any hrun with ⟨m, hm, hany⟩
  rcases (Option.any_eq_true _ _).mp hany with ⟨object, hfind, hnames⟩
  have hobject := List.mem_of_find?_eq_some hfind
  have hkind := List.find?_some hfind
  refine ⟨m, object, hm, hobject, hkind, eq_of_beq hnames, ?_⟩
  rw [isPropertyName_of_isPlainName (by decide +kernel)]
  decide +kernel

end ComponentDecl
