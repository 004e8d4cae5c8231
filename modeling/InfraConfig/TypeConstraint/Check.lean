import InfraConfig.TypeConstraint.Text

/-! Checking values against type constraints. A constraint is turned into a validator, which
reports the first place where a value does not conform, with the keys and indices leading to it. An
object with an attribute of type `any` is open: it admits attributes that are not declared. -/
namespace InfraConfig

/-- How a value fails to conform at a place. -/
inductive MismatchCause where
  /-- The value there is of another kind than the type there asks for. -/
  | wrongKind (expected : TypeConstraint) (actual : Value)
  /-- An attribute that has to be there is missing. -/
  | missing
  /-- An attribute is there that is not declared. -/
  | undeclared
deriving DecidableEq, Repr

/-- The first place where a value does not conform to a type. -/
structure Mismatch where
  /-- The keys and indices that lead to the place. -/
  path : List String
  cause : MismatchCause
deriving DecidableEq, Repr

namespace Mismatch

/-- What was expected at the place. -/
def expected (m : Mismatch) : String :=
  match m.cause with
  | .wrongKind expected _ => expected.text
  | .missing => "an attribute"
  | .undeclared => "no attribute"

/-- What was found at the place. -/
def actual (m : Mismatch) : String :=
  match m.cause with
  | .wrongKind _ actual => actual.kind
  | .missing => "nothing"
  | .undeclared => "an undeclared attribute"

/-- The path, dotted. -/
def dottedPath (m : Mismatch) : String := ".".intercalate m.path

/-- The wording of a mismatch. -/
def message (m : Mismatch) : String := s!"expected {m.expected}, found {m.actual}"

end Mismatch

/-- Whether a value is of a primitive type. -/
def Primitive.accepts : Primitive → Value → Bool
  | .string, .string _ | .number, .number _ | .bool, .bool _ => true
  | _, _ => false

namespace TypeConstraint

/-- Checks the value at a path. -/
abbrev Validator := (path : List String) → Value → Except Mismatch Unit

/-- Checks the items of a list, counted from `index`. -/
def checkItems (item : Validator) (path : List String) : (index : Nat) → List Value →
    Except Mismatch Unit
  | _, [] => .ok ()
  | index, value :: rest => do
    item (path ++ [toString index]) value
    checkItems item path (index + 1) rest

/-- Checks the members of an object, each with the validator for its key. -/
def checkMembers (member : String → Validator) (path : List String) : List (String × Value) →
    Except Mismatch Unit
  | [] => .ok ()
  | (key, value) :: rest => do
    member key (path ++ [key]) value
    checkMembers member path rest

/-- A declared attribute of an object, ready to be checked. -/
structure AttributeValidator where
  name : String
  mayBeAbsent : Bool
  validator : Validator

/-- Checks the declared attributes against the members of an object. -/
def checkAttributes (path : List String) (members : List (String × Value)) :
    List AttributeValidator → Except Mismatch Unit
  | [] => .ok ()
  | field :: rest => do
    match members.lookup field.name with
    | some value => field.validator (path ++ [field.name]) value
    | none =>
      if field.mayBeAbsent then .ok () else .error ⟨path ++ [field.name], .missing⟩
    checkAttributes path members rest

/-- Refuses the first member that is not declared. -/
def checkUndeclared (path : List String) (declared : List String)
    (members : List (String × Value)) : Except Mismatch Unit :=
  match members.find? fun member => !declared.contains member.1 with
  | some (key, _) => .error ⟨path ++ [key], .undeclared⟩
  | none => .ok ()

/-- Whether an object with these attributes admits others. -/
def isOpen (fields : List (String × Field TypeConstraint)) : Bool :=
  fields.any (·.2.type.isAny)

mutual

/-- The validator of a type. -/
def validator : TypeConstraint → Validator
  | any => fun _ _ => .ok ()
  | primitive p => fun path value =>
    if p.accepts value then .ok () else .error ⟨path, .wrongKind (primitive p) value⟩
  | list item => fun path value =>
    match value with
    | .list items => checkItems item.validator path 0 items
    | other => .error ⟨path, .wrongKind (list item) other⟩
  | set item => fun path value =>
    match value with
    | .list items => checkItems item.validator path 0 items
    | other => .error ⟨path, .wrongKind (set item) other⟩
  | map item => fun path value =>
    match value with
    | .object members => checkMembers (fun _ => item.validator) path members
    | other => .error ⟨path, .wrongKind (map item) other⟩
  | keyedMap fields items => fun path value =>
    match value with
    | .object members =>
      let declared := fieldValidators fields
      let other := items.validator
      checkMembers (fun key => (declared.lookup key).getD other) path members
    | other => .error ⟨path, .wrongKind (keyedMap fields items) other⟩
  | object fields => fun path value =>
    match value with
    | .object members => do
      checkAttributes path members (attributeValidators fields)
      if isOpen fields then .ok () else checkUndeclared path (fields.map (·.1)) members
    | other => .error ⟨path, .wrongKind (object fields) other⟩

/-- The validators of the declared keys of a map. -/
def fieldValidators : List (String × TypeConstraint) → List (String × Validator)
  | [] => []
  | (name, type) :: rest => (name, type.validator) :: fieldValidators rest

/-- The validators of the attributes of an object. -/
def attributeValidators : List (String × Field TypeConstraint) → List AttributeValidator
  | [] => []
  | (name, ⟨type, optional⟩) :: rest =>
    ⟨name, optional || type.isAny, type.validator⟩ :: attributeValidators rest

end

/-- Checks a value against a type. -/
def check (t : TypeConstraint) (value : Value) : Except Mismatch Unit := t.validator [] value

end TypeConstraint

end InfraConfig
