import InfraConfig.TypeConstraint.Expression
import InfraConfig.Value.Basic

/-! Reading type constraints from data: a type expression or its object form, one nested in the
other as one likes. What is no type stands for `any`; only too deep a nesting is refused. -/
namespace InfraConfig

/-- A type constraint is nested deeper than a bound. -/
structure TypeTooDeep where
  max : Nat
deriving DecidableEq, Repr

/-- The wording of the refusal. -/
def TypeTooDeep.message (e : TypeTooDeep) : String :=
  s!"type constraint is nested deeper than the maximum of {e.max} levels"

namespace TypeConstraint

/-- Whether an attribute in object form is marked as one that may be absent. -/
def isOptionalForm (form : Value) : Bool :=
  ((form.member? "optional").bind Value.bool?).getD false

/-- The type of a value with the given levels of nesting left; `none` if it is nested deeper. -/
def ofForm? : (levels : Nat) → Value → Option TypeConstraint
  | 0, _ => none
  | levels + 1, .string expression => ofExpression? (levels + 1) expression.toList
  | levels + 1, .object members =>
    let items := match members.lookup "items" with
      | some form => ofForm? levels form
      | none => some any
    match (members.lookup "type").bind Value.string? with
    | some "string" => some (primitive .string)
    | some "number" => some (primitive .number)
    | some "bool" => some (primitive .bool)
    | some "list" => items.map list
    | some "set" => items.map set
    | some "map" =>
      match members.lookup "fields" with
      | some (.object fields) => do
        let fields ← fields.mapM fun field => (ofForm? levels field.2).map (field.1, ·)
        return keyedMap fields (← items)
      | _ => items.map map
    | some "object" =>
      match members.lookup "fields" with
      | some (.object fields) =>
        (fields.mapM fun field =>
          (ofForm? levels field.2).map fun type =>
            (field.1, (⟨type, isOptionalForm field.2⟩ : Field TypeConstraint))).map object
      | _ => some any
    | _ => some any
  | _ + 1, _ => some any

/-- The type of a value whose nesting is at most `max` levels deep. -/
def ofValue (max : Nat) (form : Value) : Except TypeTooDeep TypeConstraint :=
  match ofForm? max form with
  | some type => .ok type
  | none => .error ⟨max⟩

end TypeConstraint

end InfraConfig
