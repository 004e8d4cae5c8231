import InfraConfig.Block.DataSource
import InfraConfig.Block.LocalValue
import InfraConfig.Block.Module
import InfraConfig.Block.Output
import InfraConfig.Block.Provider
import InfraConfig.Block.Variable

/-! Checked entities of any kind, and the states of a check. A check that has been run is settled:
running it again changes nothing (`run_run`). -/
namespace InfraConfig

/-- A checked entity. -/
inductive Entity where
  | localValue (entry : LocalEntry)
  | variable (v : InputVariable)
  | output (o : OutputValue)
  | provider (p : ProviderConfiguration)
  | moduleCall (m : ModuleCall)
  | dataSource (s : DataSource)
deriving Repr

/-- The value that shows an entity. -/
def Entity.toValue : Entity → Value
  | .localValue entry => entry.toValue
  | .variable v => v.toValue
  | .output o => o.toValue
  | .provider p => p.toValue
  | .moduleCall m => m.toValue
  | .dataSource s => s.toValue

/-- A checked entity seen as one of a wider type. -/
def Checked.map {α β : Type} (f : α → β) (c : Checked α) : Checked β := ⟨f c.entity, c.warnings⟩

/-- How far the check of a block has come. -/
inductive ValidationState where
  | unparsed
  | valid (checked : Checked Entity)
  | invalid (e : AnalysisError)

namespace ValidationState

/-- The name of a state. -/
def name : ValidationState → String
  | unparsed => "unparsed"
  | valid _ => "valid"
  | invalid _ => "invalid"

def isValid : ValidationState → Bool
  | valid _ => true
  | _ => false

def isInvalid : ValidationState → Bool
  | invalid _ => true
  | _ => false

/-- The state that an outcome settles. -/
def ofOutcome : Except AnalysisError (Checked Entity) → ValidationState
  | .ok checked => valid checked
  | .error e => invalid e

/-- Runs the check unless the state is settled. -/
def run (check : Traced (Except AnalysisError (Checked Entity))) :
    ValidationState → Traced ValidationState
  | unparsed => do return ofOutcome (← check)
  | settled => pure settled

theorem run_run (check : Traced (Except AnalysisError (Checked Entity))) (s : ValidationState) :
    (s.run check >>= run check).value = (s.run check).value := by
  cases s with
  | unparsed =>
    simp only [run, Traced.value_bind]
    cases check.value <;> rfl
  | valid checked => rfl
  | invalid e => rfl

end ValidationState

end InfraConfig
