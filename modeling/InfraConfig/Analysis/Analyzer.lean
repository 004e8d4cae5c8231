import InfraConfig.Analysis.Report
import InfraConfig.Document.Declarations
import InfraConfig.Source.Resolver

/-! The analyzer: settings, and the sources that it remembers. Whatever it checks, it hands on what
it has come to remember; `now` is the time at which it works, in milliseconds. The declarations of
a unit are checked one by one, apart from the local values, which are evaluated together; of two
declarations with the same identity only the first counts. -/
namespace InfraConfig

/-- An analyzer. -/
structure Analyzer where
  settings : Settings
  modules : ModuleSources
  providers : ProviderSources

/-- What tells the declarations of a unit apart: kind and name, of a provider also its alias, of a
data source also its type. -/
structure Identity where
  kind : BlockKind
  name : String
  qualifier : Option String
deriving DecidableEq, Repr

/-- The identity of a declaration. -/
def Declaration.identity (d : Declaration) : Identity where
  kind := d.kind
  name := d.name
  qualifier := match d.kind with
    | .provider => d.string? "alias"
    | .dataSource => d.string? "type"
    | _ => none

namespace Analyzer

/-- An analyzer that remembers nothing yet. -/
def ofSettings (settings : Settings) : Analyzer where
  settings := settings
  modules := .empty settings.moduleSourceTtl true
  providers := .empty settings.providerSourceTtl true

/-- The outcome of a check that needs no sources. -/
def settle {α : Type} (a : Analyzer) (entity : α → Entity) (check : Check (Checked α)) :
    Traced (Except AnalysisError (Checked Entity) × Analyzer) := do
  return ((← check.run).map (Checked.map entity), a)

/-- Checks the declaration of a provider. -/
def checkProvider (a : Analyzer) (now : Nat) (d : Declaration) :
    Traced (Except AnalysisError (Checked Entity) × Analyzer) := do
  match ProviderRequest.ofDeclaration d with
  | .error e => return (.error e, a)
  | .ok request =>
    let (source, providers) ← a.providers.resolve now request.address
    settle { a with providers } .provider
      (ProviderConfiguration.complete a.settings d request source)

/-- Checks the declaration of a module. -/
def checkModule (a : Analyzer) (now : Nat) (d : Declaration) :
    Traced (Except AnalysisError (Checked Entity) × Analyzer) := do
  match ModuleRequest.ofDeclaration a.settings d with
  | .error e => return (.error e, a)
  | .ok request =>
    let (source, modules) ← a.modules.resolve now request.source
    settle { a with modules } .moduleCall (ModuleCall.complete d request source)

/-- Checks a declaration of a kind. -/
def check (a : Analyzer) (now : Nat) (kind : BlockKind) (d : Declaration) :
    Traced (Except AnalysisError (Checked Entity) × Analyzer) :=
  match kind with
  | .localValue => a.settle .localValue (LocalEntry.check a.settings d)
  | .variable => a.settle .variable (InputVariable.check a.settings d)
  | .output => a.settle .output (OutputValue.check d)
  | .provider => a.checkProvider now d
  | .moduleCall => a.checkModule now d
  | .dataSource => a.settle .dataSource (DataSource.check d)

/-- Checks a declaration as one of a kind, and refuses it if it is of another. A refusal is
noted. -/
def validate (a : Analyzer) (now : Nat) (kind : BlockKind) (d : Declaration) :
    Traced (Except AnalysisError (Checked Entity) × Analyzer) := do
  let (outcome, a) ←
    if d.kind = kind then a.check now kind d
    else pure (.error (d.misshapen (.wrongKind kind)), a)
  d.noteRefusal outcome
  return (outcome, a)

/-- Adds declarations to a report, leaving out those whose identity is among `seen`. -/
def analyzeEach (a : Analyzer) (now : Nat) (seen : List Identity) (r : Report) :
    List Declaration → Traced (Report × Analyzer)
  | [] => pure (r, a)
  | d :: rest => do
    if seen.contains d.identity then
      a.analyzeEach now seen (r.addError (d.misshapen .duplicateBlock)) rest
    else
      let (outcome, a) ← a.validate now d.kind d
      a.analyzeEach now (d.identity :: seen) (r.add outcome) rest

/-- Analyzes the declarations of a configuration unit. -/
def analyze (a : Analyzer) (now : Nat) (declarations : List Declaration) :
    Traced (Report × Analyzer) := do
  let r ←
    if declarations.any (·.kind == .localValue) then
      Report.empty.addLocals <$> Locals.evaluateDeclared a.settings declarations
    else pure .empty
  let (r, a) ← a.analyzeEach now [] r (declarations.filter (·.kind != .localValue))
  Traced.note s!"analyzed {declarations.length} declarations"
    [("errors", toString r.errors.length), ("warnings", toString r.warnings.length)]
  return (r, a)

/-- The declarations of blocks, up to the first fault. A block of no known kind is passed over, and
this is noted. -/
def declarationsOf : List Document.Block → Traced (Except Document.Fault (List Declaration))
  | [] => pure (.ok [])
  | block :: rest =>
    if (BlockKind.ofIdent? block.ident).isNone then do
      Traced.note s!"skipping unsupported block '{block.ident}'" []
      declarationsOf rest
    else
      match block.declarations with
      | .error fault => pure (.error fault)
      | .ok declarations => do
        return (← declarationsOf rest).map (declarations ++ ·)

/-- Analyzes the declarations of a document. -/
def analyzeDocument (a : Analyzer) (now : Nat) (text : String) :
    Traced (Except Document.Fault Report × Analyzer) := do
  match Document.blocks text with
  | .error fault => return (.error fault, a)
  | .ok blocks =>
    match ← declarationsOf blocks with
    | .error fault => return (.error fault, a)
    | .ok declarations =>
      let (r, a) ← a.analyze now declarations
      return (.ok r, a)

end Analyzer

end InfraConfig
