import InfraConfig.Reference.Embedded
import InfraConfig.Template.Basic
import InfraConfig.Value.Basic

/-! The references of a value: those of every interpolation in its texts, in the order of the
text, each counted once. An interpolation that is one traversal gives one reference; any other one
gives the references embedded in it. -/
namespace InfraConfig

open Text (allBlank)
open Template (Piece pieces)

namespace Reference

/-- The references of an interpolation. -/
def ofInterpolation (raw : List Char) : List Reference :=
  match ofChars? raw with
  | some r => [r]
  | none => (embedded raw).map (·.reference)

/-- The references of a piece of a text. -/
def ofPiece : Piece → List Reference
  | .interpolation raw => if allBlank raw then [] else ofInterpolation raw
  | _ => []

/-- The references of a text, repeated ones too. -/
def ofText (s : List Char) : List Reference := (pieces s).flatMap ofPiece

/-- The references of a text that is one interpolation. -/
theorem ofText_interpolation {raw : List Char} (hbrace : '}' ∉ raw)
    (hblank : allBlank raw = false) :
    ofText (Piece.interpolation raw).chars = ofInterpolation raw := by
  have hwhole := Template.whole?_eq_some_iff.2 ⟨rfl, hbrace, hblank⟩
  rw [ofText, (Template.pieces_of_whole? hwhole).1, List.flatMap_singleton, ofPiece, hblank,
    if_neg Bool.false_ne_true]

end Reference

namespace Value

mutual

/-- The references in the texts of a value, repeated ones too. -/
def allReferences : Value → List Reference
  | .string s => Reference.ofText s.toList
  | .list items => allReferencesOfItems items
  | .object members => allReferencesOfMembers members
  | .null | .bool _ | .number _ => []

def allReferencesOfItems : List Value → List Reference
  | [] => []
  | item :: rest => item.allReferences ++ allReferencesOfItems rest

def allReferencesOfMembers : List (String × Value) → List Reference
  | [] => []
  | (_, value) :: rest => value.allReferences ++ allReferencesOfMembers rest

end

/-- The references of a value, in the order of their first occurrence. -/
def references (v : Value) : List Reference := v.allReferences.eraseDups

/-- What a consumer records of the references: bare names of local values, others as written. -/
def referenceKeys (v : Value) : List String := (v.references.map Reference.key).eraseDups

/-- The names of the local values that a value depends on. -/
def localNames (v : Value) : List String := (v.references.filterMap Reference.localName?).eraseDups

end Value

end InfraConfig
