import InfraConfig.Block.Entity

/-! Reports: what is found in the declarations of one configuration unit. Entities are collected by
kind, in the order of declaration, next to all errors and warnings. -/
namespace InfraConfig

/-- The entities of a configuration unit. -/
structure Analysis where
  /-- The local values, unless there are none or they fail. -/
  locals : Option EvaluatedLocals
  inputVariables : List InputVariable
  outputs : List OutputValue
  providers : List ProviderConfiguration
  modules : List ModuleCall
  dataSources : List DataSource

namespace Analysis

/-- Nothing is found yet. -/
def empty : Analysis := ⟨none, [], [], [], [], []⟩

/-- The entities with one more. Local values are not collected one by one. -/
def add (a : Analysis) : Entity → Analysis
  | .localValue _ => a
  | .variable v => { a with inputVariables := a.inputVariables ++ [v] }
  | .output o => { a with outputs := a.outputs ++ [o] }
  | .provider p => { a with providers := a.providers ++ [p] }
  | .moduleCall m => { a with modules := a.modules ++ [m] }
  | .dataSource s => { a with dataSources := a.dataSources ++ [s] }

/-- The value that shows the entities. -/
def toValue (a : Analysis) : Value := .object [
  ("locals", (a.locals.map EvaluatedLocals.toValue).getD .null),
  ("variables", .list (a.inputVariables.map InputVariable.toValue)),
  ("outputs", .list (a.outputs.map OutputValue.toValue)),
  ("providers", .list (a.providers.map ProviderConfiguration.toValue)),
  ("modules", .list (a.modules.map ModuleCall.toValue)),
  ("dataSources", .list (a.dataSources.map DataSource.toValue))]

end Analysis

/-- What is found in a configuration unit. -/
structure Report where
  analysis : Analysis
  errors : List AnalysisError
  warnings : List Diagnostic

namespace Report

/-- Nothing is found yet. -/
def empty : Report := ⟨.empty, [], []⟩

/-- The report with an error. -/
def addError (r : Report) (e : AnalysisError) : Report := { r with errors := r.errors ++ [e] }

/-- The report with the outcome of the local values. -/
def addLocals (r : Report) : Except AnalysisError EvaluatedLocals → Report
  | .ok locals => { r with analysis := { r.analysis with locals := some locals } }
  | .error e => r.addError e

/-- The report with the outcome of a block. -/
def add (r : Report) : Except AnalysisError (Checked Entity) → Report
  | .ok checked =>
    { r with analysis := r.analysis.add checked.entity, warnings := r.warnings ++ checked.warnings }
  | .error e => r.addError e

def hasErrors (r : Report) : Bool := !r.errors.isEmpty

/-- The findings of a report: errors, then warnings. -/
def diagnostics (r : Report) : List Diagnostic :=
  r.errors.map AnalysisError.diagnostic ++ r.warnings

end Report

end InfraConfig
