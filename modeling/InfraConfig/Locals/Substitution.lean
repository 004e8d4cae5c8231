import InfraConfig.Reference.Occurrence
import InfraConfig.Value.Text

/-! Substitution of local values. In every text of a value the references to local values whose
value is known are replaced. A text that is one interpolation of one reference becomes the value
itself, of whatever kind; elsewhere the value is written into the text: as it is where the
interpolation is a reference, as its compact text where the reference is part of a longer
expression. All else stays as it is. -/
namespace InfraConfig

open Text (allBlank)
open Template (Piece pieces whole?)

namespace Value

/-- The part of a value that the accesses lead to. -/
def navigate : Value → List Segment → Option Value
  | v, [] => some v
  | .object members, .attribute key :: path => do navigate (← members.lookup key) path
  | .list items, .index n :: path => do navigate (← items[n]?) path
  | _, _ :: _ => none

end Value

/-- The known values of local values, by name. -/
abbrev Environment := String → Option Value

namespace Environment

/-- The value of a reference if it is known. -/
def resolve (env : Environment) : Reference → Option Value
  | .localValue name path => do (← env name).navigate path
  | .external _ => none

/-- A fragment of an expression with its reference replaced. -/
def fillFragment (env : Environment) : Fragment → List Char
  | .text chars => chars
  | .reference chars r =>
    match env.resolve r with
    | some value => value.chars
    | none => chars

/-- A piece of a text with its references replaced. -/
def fillPiece (env : Environment) : Piece → List Char
  | .interpolation raw =>
    if allBlank raw then (Piece.interpolation raw).chars
    else match Reference.ofChars? raw with
      | some r =>
        match env.resolve r with
        | some value => value.interpolated
        | none => (Piece.interpolation raw).chars
      | none =>
        (Piece.interpolation ((Reference.fragments raw).flatMap env.fillFragment)).chars
  | piece => piece.chars

/-- A text with its references replaced. -/
def fillText (env : Environment) (s : List Char) : List Char := (pieces s).flatMap env.fillPiece

/-- The value of a text with its references replaced. -/
def substituteText (env : Environment) (s : List Char) : Value :=
  match (whole? s).bind fun raw => (Reference.ofChars? raw).bind env.resolve with
  | some value => value
  | none => .string (String.ofList (env.fillText s))

mutual

/-- A value with its references replaced. -/
def substitute (env : Environment) : Value → Value
  | .string s => env.substituteText s.toList
  | .list items => .list (env.substituteItems items)
  | .object members => .object (env.substituteMembers members)
  | .null => .null
  | .bool b => .bool b
  | .number n => .number n

def substituteItems (env : Environment) : List Value → List Value
  | [] => []
  | item :: rest => env.substitute item :: env.substituteItems rest

def substituteMembers (env : Environment) : List (String × Value) → List (String × Value)
  | [] => []
  | (key, value) :: rest => (key, env.substitute value) :: env.substituteMembers rest

end

end Environment

/-! ### Interpolations that are left alone -/

namespace Reference

/-- The external references of a text that make up an interpolation; they are never replaced. -/
def externalsOfText (s : List Char) : List Reference :=
  (pieces s).flatMap fun
    | .interpolation raw =>
      match ofChars? raw with
      | some (.external written) => [.external written]
      | _ => []
    | _ => []

end Reference

namespace Value

mutual

/-- The external references that make up an interpolation of a value. -/
def externals : Value → List Reference
  | .string s => Reference.externalsOfText s.toList
  | .list items => externalsOfItems items
  | .object members => externalsOfMembers members
  | .null | .bool _ | .number _ => []

def externalsOfItems : List Value → List Reference
  | [] => []
  | item :: rest => item.externals ++ externalsOfItems rest

def externalsOfMembers : List (String × Value) → List Reference
  | [] => []
  | (_, value) :: rest => value.externals ++ externalsOfMembers rest

end

end Value

end InfraConfig
