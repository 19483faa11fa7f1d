import ComponentDecl.Text

/-!
# Validators and their types

A validator says what values a prop may have.  Each of the known validators stands
for a declared type; the types of things to render belong to the rendering library.
-/

namespace ComponentDecl

/-- The types that a prop can be declared with. -/
inductive PropType where
  | any
  | anyArray
  | boolean
  | function
  | number
  | object
  | string
  | node
  | element
  deriving DecidableEq, Repr

namespace PropType

def declared (library : Text) : PropType → Text
  | any => "any"
  | anyArray => "any[]"
  | boolean => "boolean"
  | function => "(...args: any[]) => any"
  | number => "number"
  | object => "Object"
  | string => "string"
  | node => library ++ ".ReactNode".toList
  | element => library ++ ".ReactElement<any>".toList

def name : PropType → Text
  | any => "Any"
  | anyArray => "AnyArray"
  | boolean => "Boolean"
  | function => "Function"
  | number => "Number"
  | object => "Object"
  | string => "String"
  | node => "Node"
  | element => "Element"

def validators : List (Text × PropType) :=
  [("any", any), ("array", anyArray), ("bool", boolean), ("func", function),
   ("number", number), ("object", object), ("string", string), ("node", node),
   ("element", element)]

end PropType

structure InferenceOptions where
  library : Text := "React"
  /-- Whether validators are also recognised without the library in front. -/
  standalone : Bool := true
  deriving DecidableEq, Repr

namespace InferenceOptions

/-- The texts that a validator is recognised by. -/
def spellings (o : InferenceOptions) (validator : Text) : List Text :=
  let alone := "PropTypes.".toList ++ validator
  let qualified := o.library ++ '.' :: alone
  if o.standalone then [qualified, alone] else [qualified]

def typeOf? (o : InferenceOptions) (name : Text) : Option PropType :=
  (PropType.validators.find? fun v => (o.spellings v.1).contains name).map Prod.snd

end InferenceOptions

def memberText (name type : Text) (optional : Bool) : Text :=
  name ++ (if optional then ['?'] else []) ++ ": ".toList ++ type

end ComponentDecl
