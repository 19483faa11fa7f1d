import ComponentDecl.Props
import ComponentDecl.Writer

/-!
# Programs for the writer

A declaration is written by a list of steps.  Some steps write one piece of text,
others stand around steps of their own.
-/

namespace ComponentDecl

/-- A step of writing a declaration. -/
inductive Step where
  | line (text : Text)
  | newline
  | openBlock (header : Text)
  | closeBlock
  | property (name type : Text) (optional : Bool)
  | comment (text : Text)
  | declareModule (name : Text) (body : List Step)
  /-- The import of a whole module, and what follows it at the same depth. -/
  | importAll (label source : Text) (body : List Step)
  | interface (name : Text) (props : PropTable)
  /-- The words that export what follows on the same line. -/
  | exportDefault (body : List Step)
  /-- A class on the line begun, with its contents.  The props are the first type
  argument of the base. -/
  | classDecl (name base : Text) (props : Option Text) (body : List Step)
  deriving Inhabited

namespace Step

def moduleHeader (name : Text) : Text :=
  "declare module '".toList ++ name ++ ['\'']

def importLine (label source : Text) : Text :=
  "import * as ".toList ++ label ++ " from '".toList ++ source ++ "';".toList

def interfaceHeader (name : Text) : Text :=
  "interface ".toList ++ name

def classHeader (name base : Text) (props : Option Text) : Text :=
  "class ".toList ++ name ++ " extends ".toList ++ base ++ '<' ::
    props.getD "any" ++ ", any> \x7b".toList

def writeProp (w : Writer) (p : Text × PropEntry) : Writer :=
  let w :=
    match p.2.doc with
    | some doc => w.comment doc
    | none => w
  w.property p.1 p.2.type true

def writeInterface (name : Text) (props : PropTable) (w : Writer) : Writer :=
  (props.entries.foldl writeProp (w.openBlock (interfaceHeader name))).closeBlock

/-!
# Running
-/

mutual

def run : Step → Writer → Writer
  | line t, w => w.line t
  | newline, w => w.newline
  | openBlock h, w => w.openBlock h
  | closeBlock, w => w.closeBlock
  | property n t o, w => w.property n t o
  | comment t, w => w.comment t
  | declareModule n body, w => (runAll body (w.openBlock (moduleHeader n))).closeBlock
  | importAll a s body, w => runAll body (w.line (importLine a s))
  | interface n props, w => writeInterface n props w
  | exportDefault body, w => runAll body ((w.indent).write "export default ")
  | classDecl n b p body, w =>
      (runAll body ((w.write (classHeader n b p)).newline.deepen)).closeBlock

def runAll : List Step → Writer → Writer
  | [], w => w
  | s :: rest, w => runAll rest (run s w)

end

/-!
# The course of a run
-/

mutual

/-- The writers after each step inside a step, in the order of their ends, the step
itself last. -/
def course : Step → Writer → List Writer
  | declareModule n body, w =>
      courseAll body (w.openBlock (moduleHeader n)) ++ [run (declareModule n body) w]
  | importAll a s body, w =>
      courseAll body (w.line (importLine a s)) ++ [run (importAll a s body) w]
  | exportDefault body, w =>
      courseAll body ((w.indent).write "export default ") ++ [run (exportDefault body) w]
  | classDecl n b p body, w =>
      courseAll body ((w.write (classHeader n b p)).newline.deepen) ++
        [run (classDecl n b p body) w]
  | s, w => [run s w]

def courseAll : List Step → Writer → List Writer
  | [], _ => []
  | s :: rest, w => course s w ++ courseAll rest (run s w)

end

end Step
end ComponentDecl
