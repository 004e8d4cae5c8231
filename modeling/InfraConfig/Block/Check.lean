import InfraConfig.Analysis.Error
import InfraConfig.Text.Blank
import InfraConfig.Trace

/-! What the checks of all kinds of blocks share. A check ends with an entity or with the first
error that it meets, and notes records on the way; `Check.outcome` is the result without the
records, and it commutes with sequencing. The readers of attributes refuse an attribute that is
absent although it is required, or of the wrong kind; a null attribute counts as absent. -/
namespace InfraConfig

open Text (allBlank)

/-- A check of a block. -/
abbrev Check := ExceptT AnalysisError Traced

namespace Check

variable {α β : Type}

/-- Notes a message with details. -/
def note (message : String) (details : List (String × String)) : Check Unit :=
  ExceptT.lift (Traced.note message details)

/-- The result of a check. -/
def outcome (check : Check α) : Except AnalysisError α := check.run.value

@[simp] theorem outcome_pure (a : α) : (pure a : Check α).outcome = .ok a := rfl

@[simp] theorem outcome_throw (e : AnalysisError) : (throw e : Check α).outcome = .error e := rfl

@[simp] theorem outcome_note (message : String) (details : List (String × String)) :
    (note message details).outcome = .ok () := rfl

theorem outcome_bind (check : Check α) (f : α → Check β) :
    (check >>= f).outcome = check.outcome >>= fun a => (f a).outcome := by
  simp only [outcome, bind, ExceptT.bind, ExceptT.run, ExceptT.mk, ExceptT.bindCont]
  split <;> simp_all [Except.bind, pure]

end Check

/-- A checked entity, and what is worth a warning about it. -/
structure Checked (α : Type) where
  entity : α
  warnings : List Diagnostic
deriving Repr

/-- A name that starts with a letter and goes on with letters, digits, underscores and hyphens. -/
def isIdentifier (name : String) : Bool :=
  match name.toList with
  | [] => false
  | c :: s => c.isAlpha && s.all fun c => c.isAlphanum || c == '_' || c == '-'

namespace Declaration

/-- The error that a fault in the shape of the block is. -/
def misshapen (d : Declaration) (fault : ShapeFault) : AnalysisError := .shape d.kind d.name fault

/-- The error that a fault in the content of the block is. -/
def unsound (d : Declaration) (fault : ContentFault) : AnalysisError := .content d.kind d.name fault

/-- Refuses a block whose name is blank. -/
def requireName (d : Declaration) : Except AnalysisError Unit :=
  if allBlank d.name.toList then .error (d.misshapen .missingName) else .ok ()

/-- Refuses a block whose name is no identifier. -/
def requireIdentifier (d : Declaration) : Except AnalysisError Unit := do
  d.requireName
  if isIdentifier d.name then .ok () else .error (d.misshapen .invalidIdentifier)

/-- An attribute that has to be there. -/
def required (d : Declaration) (key : String) : Except AnalysisError Value :=
  match d.presentAttribute? key with
  | some value => .ok value
  | none => .error (d.misshapen (.missingAttribute key))

/-- A text that has to be there and may not be blank. -/
def requiredString (d : Declaration) (key : String) : Except AnalysisError String := do
  match ← d.required key with
  | .string s =>
    if allBlank s.toList then .error (d.misshapen (.emptyAttribute key)) else .ok s
  | other => .error (d.misshapen (.attributeNotString key other.kind))

/-- A text that may be absent. -/
def optionalString (d : Declaration) (key : String) : Except AnalysisError (Option String) :=
  match d.presentAttribute? key with
  | none => .ok none
  | some (.string s) => .ok (some s)
  | some other => .error (d.misshapen (.attributeNotString key other.kind))

/-- A flag, which is off when it is absent and may be written as a text. -/
def flag (d : Declaration) (key : String) : Except AnalysisError Bool :=
  match d.presentAttribute? key with
  | none => .ok false
  | some (.bool b) => .ok b
  | some (.string "true") => .ok true
  | some (.string "false") => .ok false
  | some other => .error (d.misshapen (.attributeNotBool key other.kind))

end Declaration

end InfraConfig
