import ComponentDecl.Declaration

/-!
# The text of a declaration

A writer only appends.  Each of its operations appends a text that depends on the depth
and the unit of indentation alone, so a declaration is the concatenation of its parts.
-/

namespace ComponentDecl

/-!
# The parts
-/

/-- The further lines of a comment, each on a line of its own behind `pad`. -/
def commentRest (pad : Text) : List Text → Text
  | [] => []
  | line :: rest => '\n' :: pad ++ Writer.gutter rest.isEmpty line ++ commentRest pad rest

/-- What stands between the marks of a comment as it is written. -/
def commentBody (pad t : Text) : Text :=
  match Writer.commentParts t with
  | [] => []
  | first :: rest => first ++ commentRest pad rest

/-- A comment as it is written. -/
def commentText (pad t : Text) : Text :=
  pad ++ "/*".toList ++ commentBody pad t ++ "*/\n".toList

/-- The documentation of something as it is written, if there is some. -/
def docText (pad : Text) : Option Text → Text
  | some doc => commentText pad doc
  | none => []

/-- A prop as it is written. -/
def propText (pad : Text) (p : Text × PropEntry) : Text :=
  docText pad p.2.doc ++ (pad ++ (p.1 ++ "?: ".toList ++ p.2.type ++ ";\n".toList))

/-- An interface as it is written, with the empty line behind it. -/
def interfaceText (unit name : Text) : Option PropTable → Text
  | some table =>
      unit ++ (Step.interfaceHeader name ++ " \x7b\n".toList) ++
        table.entries.flatMap (propText (unit ++ unit)) ++ (unit ++ "\x7d\n\n".toList)
  | none => []

/-- A class as it is written. -/
def classText (o : Options) (name : Text) (props : Option PropTable) : Text :=
  o.indent ++ "export default ".toList ++
    Step.classHeader name o.componentBase (props.map fun _ => o.interfaceName) ++
    (['\n'] ++ o.indent ++ "\x7d\n".toList)

/-- A component as it is written. -/
def componentText (o : Options) (c : Component) : Text :=
  interfaceText o.indent o.interfaceName c.props ++ docText o.indent c.doc ++
    classText o c.name c.props

/-- The lines of a declaration in front of the component. -/
def openingText (o : Options) (name : Text) : Text :=
  Step.moduleHeader name ++ " \x7b\n".toList ++ o.indent ++
    Step.importLine o.library o.libraryModule ++ "\n\n".toList

/-!
# Writers
-/

namespace Writer

@[simp] theorem depth_write (w : Writer) (t : Text) : (w.write t).depth = w.depth := rfl

@[simp] theorem unit_write (w : Writer) (t : Text) : (w.write t).unit = w.unit := rfl

theorem write_write (w : Writer) (s t : Text) : (w.write s).write t = w.write (s ++ t) := by
  simp [write]

theorem write_nil (w : Writer) : w.write [] = w := by
  simp [write]

theorem indent_eq (w : Writer) : w.indent = w.write (Text.times w.depth w.unit) := rfl

theorem line_eq (w : Writer) (t : Text) :
    w.line t = w.write (Text.times w.depth w.unit ++ t ++ ['\n']) := by
  rw [← write_write, ← write_write]
  rfl

/-- A block around a text. -/
theorem closeBlock_openBlock (w : Writer) (header body : Text) :
    ((w.openBlock header).write body).closeBlock =
      w.write (Text.times w.depth w.unit ++ (header ++ " \x7b\n".toList) ++ body ++
        (Text.times w.depth w.unit ++ "\x7d\n".toList)) := by
  unfold openBlock closeBlock
  rw [line_eq, line_eq]
  simp only [write, deepen, Nat.add_sub_cancel, List.append_assoc]
  rfl

theorem commentLines_eq (w : Writer) (ls : List Text) :
    w.commentLines ls = w.write (commentRest (Text.times w.depth w.unit) ls) := by
  induction ls generalizing w with
  | nil =>
      rw [commentLines, commentRest, write_nil]
  | cons line rest ih =>
      rw [commentLines, ih, commentRest, newline, indent_eq, write_write, write_write, write_write]
      simp

theorem commentParts_ne_nil (t : Text) : commentParts t ≠ [] := by
  simp [commentParts, Text.lines_ne_nil]

theorem comment_eq (w : Writer) (t : Text) :
    w.comment t = w.write (commentText (Text.times w.depth w.unit) t) := by
  unfold comment commentText commentBody
  cases hparts : commentParts t with
  | nil =>
      exact absurd hparts (commentParts_ne_nil t)
  | cons first rest =>
      dsimp only
      rw [indent_eq, write_write, write_write, commentLines_eq, write_write, write_write]
      simp only [depth_write, unit_write, List.append_assoc]

end Writer

namespace Step

theorem writeProp_eq (w : Writer) (p : Text × PropEntry) :
    writeProp w p = w.write (propText (Text.times w.depth w.unit) p) := by
  have hmember : memberText p.1 p.2.type true ++ [';'] ++ ['\n'] =
      p.1 ++ "?: ".toList ++ p.2.type ++ ";\n".toList := by
    simp only [memberText, if_true, List.append_assoc]
    rfl
  unfold writeProp propText Writer.property
  cases p.2.doc with
  | none =>
      dsimp only [docText]
      rw [Writer.line_eq, List.nil_append, List.append_assoc, hmember]
  | some doc =>
      dsimp only [docText]
      rw [Writer.comment_eq, Writer.line_eq, Writer.write_write, Writer.depth_write,
        Writer.unit_write, List.append_assoc (Text.times w.depth w.unit), hmember]

theorem foldl_writeProp (w : Writer) (ps : List (Text × PropEntry)) :
    ps.foldl writeProp w = w.write (ps.flatMap (propText (Text.times w.depth w.unit))) := by
  induction ps generalizing w with
  | nil =>
      rw [List.foldl_nil, List.flatMap_nil, Writer.write_nil]
  | cons p rest ih =>
      rw [List.foldl_cons, ih, writeProp_eq, Writer.write_write, List.flatMap_cons]
      rfl

theorem writeInterface_eq (name : Text) (table : PropTable) (w : Writer) :
    writeInterface name table w =
      w.write (Text.times w.depth w.unit ++ (interfaceHeader name ++ " \x7b\n".toList) ++
        table.entries.flatMap (propText (Text.times (w.depth + 1) w.unit)) ++
        (Text.times w.depth w.unit ++ "\x7d\n".toList)) := by
  unfold writeInterface
  rw [foldl_writeProp, Writer.closeBlock_openBlock]
  rfl

theorem run_classDecl (name base : Text) (props : Option Text) (w : Writer) :
    run (.classDecl name base props []) w =
      w.write (classHeader name base props ++
        (['\n'] ++ Text.times w.depth w.unit ++ "\x7d\n".toList)) := by
  rw [run, runAll, Writer.closeBlock, Writer.line_eq]
  simp only [Writer.write, Writer.newline, Writer.deepen, Nat.add_sub_cancel, List.append_assoc]
  rfl

end Step

namespace Declaration

theorem times_one (unit : Text) : Text.times 1 unit = unit := by
  simp [Text.times]

theorem times_two (unit : Text) : Text.times 2 unit = unit ++ unit := by
  simp [Text.times, List.replicate]

theorem runAll_nil (w : Writer) : Step.runAll [] w = w := by
  rw [Step.runAll]

theorem runAll_append (ss ts : List Step) (w : Writer) :
    Step.runAll (ss ++ ts) w = Step.runAll ts (Step.runAll ss w) := by
  induction ss generalizing w with
  | nil =>
      rfl
  | cons s rest ih =>
      rw [List.cons_append, Step.runAll, ih, Step.runAll]

theorem runAll_interface (o : Options) (table : PropTable) {w : Writer} (hd : w.depth = 1)
    (hu : w.unit = o.indent) :
    Step.runAll [.interface o.interfaceName table, .newline] w =
      w.write (interfaceText o.indent o.interfaceName (some table)) := by
  simp only [Step.runAll, Step.run, Step.writeInterface_eq, hd, hu, Nat.reduceAdd, times_one,
    times_two, Writer.newline, Writer.write_write, interfaceText, List.append_assoc]
  rfl

theorem runAll_doc (o : Options) (doc : Text) {w : Writer} (hd : w.depth = 1)
    (hu : w.unit = o.indent) :
    Step.runAll [.comment doc] w = w.write (docText o.indent (some doc)) := by
  simp only [Step.runAll, Step.run, Writer.comment_eq, hd, hu, times_one, docText]

theorem runAll_class (o : Options) (name : Text) (props : Option PropTable) {w : Writer}
    (hd : w.depth = 1) (hu : w.unit = o.indent) :
    Step.runAll [.exportDefault [.classDecl name o.componentBase
      (props.map fun _ => o.interfaceName) []]] w = w.write (classText o name props) := by
  rw [Step.runAll, Step.runAll, Step.run, Step.runAll, Step.runAll, Step.run_classDecl,
    Writer.indent_eq]
  simp only [Writer.write_write, Writer.depth_write, Writer.unit_write, hd, hu, times_one,
    classText, List.append_assoc]

/-- A component is written inside one block. -/
theorem runAll_component (o : Options) (c : Component) {w : Writer} (hd : w.depth = 1)
    (hu : w.unit = o.indent) :
    Step.runAll (c.steps o) w = w.write (componentText o c) := by
  rcases c with ⟨name, doc, props⟩
  have hclass : ∀ t, Step.runAll [.exportDefault [.classDecl name o.componentBase
      (props.map fun _ => o.interfaceName) []]] (w.write t) =
        w.write (t ++ classText o name props) := by
    intro t
    rw [runAll_class o name props (by exact hd) (by exact hu), Writer.write_write]
  have hdoc : ∀ t d, Step.runAll [.comment d] (w.write t) =
      w.write (t ++ docText o.indent (some d)) := by
    intro t d
    rw [runAll_doc o d (by exact hd) (by exact hu), Writer.write_write]
  unfold Component.steps componentText
  rw [runAll_append, runAll_append]
  dsimp only at hclass ⊢
  cases props with
  | none =>
      cases doc with
      | none =>
          dsimp only
          rw [runAll_nil, runAll_nil, ← Writer.write_nil w, hclass, Writer.write_nil]
          rfl
      | some doc =>
          dsimp only
          rw [runAll_nil, ← Writer.write_nil w, hdoc, hclass, Writer.write_nil]
          rfl
  | some table =>
      cases doc with
      | none =>
          dsimp only
          rw [runAll_nil, runAll_interface o table hd hu, hclass, docText, List.append_nil]
      | some doc =>
          dsimp only
          rw [runAll_interface o table hd hu, hdoc, hclass]

/-- A module is written around its contents. -/
theorem runAll_module (o : Options) (name : Text) {contents : List Step} {t : Text}
    (h : ∀ w : Writer, w.depth = 1 → w.unit = o.indent →
      Step.runAll contents w = w.write t) :
    (Step.runAll [.declareModule name [.importAll o.library o.libraryModule
      (.newline :: contents)]] (Writer.fresh o.indent)).output =
        openingText o name ++ t ++ "\x7d\n".toList := by
  have hunit : Text.times ((Writer.fresh o.indent).openBlock (Step.moduleHeader name)).depth
      ((Writer.fresh o.indent).openBlock (Step.moduleHeader name)).unit = o.indent :=
    times_one o.indent
  have hnone : Text.times (Writer.fresh o.indent).depth (Writer.fresh o.indent).unit = [] := rfl
  rw [Step.runAll, runAll_nil, Step.run, Step.runAll, runAll_nil, Step.run, Step.runAll,
    Step.run, Writer.line_eq, Writer.newline, Writer.write_write, h _ rfl rfl,
    Writer.write_write, Writer.closeBlock_openBlock, hunit, hnone, openingText]
  simp only [Writer.write, Writer.fresh, List.nil_append, List.append_assoc]
  rfl

/-- The text of a declaration is its opening lines, the component and a closing brace. -/
theorem text_eq (o : Options) (name : Text) (c : Option Component) :
    text o name c =
      openingText o name ++ (c.map (componentText o)).getD [] ++ "\x7d\n".toList := by
  cases c with
  | none =>
      apply runAll_module
      intro w _ _
      rw [runAll_nil, Option.map_none, Option.getD_none, Writer.write_nil]
  | some c =>
      apply runAll_module
      intro w hd hu
      exact runAll_component o c hd hu

end Declaration

theorem componentText_ne_nil (o : Options) (c : Component) : componentText o c ≠ [] := by
  intro h
  have hclass := (List.append_eq_nil_iff.mp h).2
  have hline := (List.append_eq_nil_iff.mp hclass).2
  cases (List.append_eq_nil_iff.mp hline).1

end ComponentDecl
