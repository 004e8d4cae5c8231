import InfraConfig.Analysis.Analyzer

/-! Configuration units put together from documents and from declarations that are added one by
one. The declarations of the documents come first, whatever the order of adding. -/
namespace InfraConfig

/-- A configuration unit. -/
structure Configuration where
  settings : Settings
  documents : List String
  /-- The declarations added to those of the documents. -/
  added : List Declaration

namespace Configuration

/-- A unit without declarations. -/
def empty (settings : Settings) : Configuration := ⟨settings, [], []⟩

/-- The unit with one more document. -/
def addDocument (c : Configuration) (text : String) : Configuration :=
  { c with documents := c.documents ++ [text] }

/-- The unit with one more declaration. -/
def add (c : Configuration) (d : Declaration) : Configuration := { c with added := c.added ++ [d] }

/-- The unit with an attribute written to the declaration that was added last. -/
def withAttribute (c : Configuration) (key : String) (value : Value) : Configuration :=
  match c.added.getLast? with
  | none => c
  | some last => { c with added := c.added.dropLast ++ [last.withAttribute key value] }

/-- All declarations of a unit. -/
def declarations (c : Configuration) : Except Document.Fault (List Declaration) := do
  return (← c.documents.mapM Document.declarations).flatten ++ c.added

/-- What is found in a unit. A document that declares nothing because of a fault leaves the report
empty. -/
structure Outcome where
  errors : List Diagnostic
  report : Report

/-- Whether nothing is wrong with a unit. -/
def Outcome.isSuccess (o : Outcome) : Bool := o.errors.isEmpty

/-- Analyzes a unit with an analyzer of its own. -/
def analyze (c : Configuration)
    (explain : Document.Fault.Explanation := Document.Fault.unexplained) : Traced Outcome := do
  match c.declarations with
  | .error fault => return ⟨[fault.diagnostic explain], .empty⟩
  | .ok declarations =>
    let (r, _) ← (Analyzer.ofSettings c.settings).analyze 0 declarations
    return ⟨r.errors.map AnalysisError.diagnostic, r⟩

end Configuration

end InfraConfig
