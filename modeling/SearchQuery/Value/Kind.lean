/-!
# Attribute types

The types an attribute may be declared with. A schema names a type by its tag; an enumeration also
carries the labels it allows.
-/

set_option autoImplicit false

namespace SearchQuery

inductive TypeTag where
  | string
  | integer
  | long
  | double
  | float
  | boolean
  | enumeration
deriving DecidableEq, Repr

namespace TypeTag

def all : List TypeTag :=
  [.string, .integer, .long, .double, .float, .boolean, .enumeration]

def name : TypeTag → String
  | .string => "string"
  | .integer => "integer"
  | .long => "long"
  | .double => "double"
  | .float => "float"
  | .boolean => "boolean"
  | .enumeration => "enumeration"

def ofName? (text : String) : Option TypeTag :=
  all.find? fun tag => tag.name == text

theorem ofName?_name (tag : TypeTag) : ofName? tag.name = some tag := by
  cases tag <;> rfl

end TypeTag

inductive AttributeType where
  | string
  | integer
  | long
  | double
  | float
  | boolean
  | enumeration (labels : List String)
deriving DecidableEq, Repr

namespace AttributeType

def tag : AttributeType → TypeTag
  | .string => .string
  | .integer => .integer
  | .long => .long
  | .double => .double
  | .float => .float
  | .boolean => .boolean
  | .enumeration _ => .enumeration

/-- The type of the given tag; the labels matter to enumerations only. -/
def ofTag (labels : List String) : TypeTag → AttributeType
  | .string => .string
  | .integer => .integer
  | .long => .long
  | .double => .double
  | .float => .float
  | .boolean => .boolean
  | .enumeration => .enumeration labels

def describe : AttributeType → String
  | .enumeration labels => "enumeration (" ++ String.intercalate ", " labels ++ ")"
  | other => other.tag.name

end AttributeType

end SearchQuery
