import InfraConfig.TypeConstraint.Basic
import InfraConfig.Value.Basic

/-! The two written forms of a type constraint: the type expression, such as
`list(object({name = string}))`, and the object form, in which a collection is an object with a
`type` and its `items` or `fields`. -/
namespace InfraConfig

/-- The name of a primitive type. -/
def Primitive.name : Primitive → String
  | .string => "string"
  | .number => "number"
  | .bool => "bool"

namespace TypeConstraint

/-! ### Type expressions -/

/-- A constructor applied to its argument. -/
def applied (constructor : String) (argument : List Char) : List Char :=
  constructor.toList ++ '(' :: argument ++ [')']

/-- Fields between braces. -/
def braced (fields : List (List Char)) : List Char :=
  '{' :: [',', ' '].intercalate fields ++ ['}']

/-- A field with its type. -/
def assigned (name : String) (type : List Char) : List Char :=
  name.toList ++ ' ' :: '=' :: ' ' :: type

mutual

/-- The type expression of a constraint. -/
def chars : TypeConstraint → List Char
  | any => "any".toList
  | primitive p => p.name.toList
  | list item => applied "list" item.chars
  | set item => applied "set" item.chars
  | map item => applied "map" item.chars
  | keyedMap fields items =>
    let declared := braced (fieldTexts fields)
    applied "map" (if items.isAny then declared else declared ++ ',' :: ' ' :: items.chars)
  | object fields => applied "object" (braced (attributeTexts fields))

/-- The declared keys of a map with their types. -/
def fieldTexts : List (String × TypeConstraint) → List (List Char)
  | [] => []
  | (name, type) :: rest => assigned name type.chars :: fieldTexts rest

/-- The attributes of an object with their types. -/
def attributeTexts : List (String × Field TypeConstraint) → List (List Char)
  | [] => []
  | (name, ⟨type, optional⟩) :: rest =>
    assigned name (if optional then applied "optional" type.chars else type.chars) ::
      attributeTexts rest

end

/-- The type expression of a constraint. -/
def text (t : TypeConstraint) : String := String.ofList t.chars

/-! ### Object form -/

/-- The object form of a constructor with one part. -/
def form (constructor : String) (key : String) (part : Value) : List (String × Value) :=
  [("type", .string constructor), (key, part)]

/-- The object form of an attribute that may be absent: the mark joins the form of the type, which
becomes an object for it if it is none. -/
def optionalForm : Value → Value
  | .object members => .object (Keyed.insert members "optional" (.bool true))
  | other => .object [("type", other), ("optional", .bool true)]

mutual

/-- The object form of a constraint. -/
def objectForm : TypeConstraint → Value
  | any => .string "any"
  | primitive p => .string p.name
  | list item => .object (form "list" "items" item.objectForm)
  | set item => .object (form "set" "items" item.objectForm)
  | map item => .object (form "map" "items" item.objectForm)
  | keyedMap fields items =>
    let declared := form "map" "fields" (.object (fieldForms fields))
    .object (if items.isAny then declared else declared ++ [("items", items.objectForm)])
  | object fields => .object (form "object" "fields" (.object (attributeForms fields)))

/-- The object forms of the declared keys of a map. -/
def fieldForms : List (String × TypeConstraint) → List (String × Value)
  | [] => []
  | (name, type) :: rest => (name, type.objectForm) :: fieldForms rest

/-- The object forms of the attributes of an object. -/
def attributeForms : List (String × Field TypeConstraint) → List (String × Value)
  | [] => []
  | (name, ⟨type, optional⟩) :: rest =>
    (name, if optional then optionalForm type.objectForm else type.objectForm) ::
      attributeForms rest

end

end TypeConstraint

end InfraConfig
