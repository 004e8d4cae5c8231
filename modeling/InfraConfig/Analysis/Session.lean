import InfraConfig.Analysis.Analyzer

/-! Sessions: what is asked of one analyzer, one action after the other, while time goes on. Actions
change what the analyzer remembers, for how long, and under which settings it works. -/
namespace InfraConfig

/-- What is asked of an analyzer. -/
inductive Action where
  /-- Checks a declaration as one of a kind; a local value is evaluated by itself. -/
  | validate (kind : BlockKind) (d : Declaration)
  | evaluateLocals (declarations : List Declaration)
  | analyze (declarations : List Declaration)
  | analyzeDocument (text : String)
  /-- Lets time go on, in milliseconds. -/
  | advance (duration : Nat)
  /-- Forgets all sources. -/
  | forget
  /-- Forgets the sources of modules; from now on they are remembered for `ttl` milliseconds. -/
  | forgetModules (ttl : Nat)
  /-- Forgets the addresses of providers; from now on they are remembered for `ttl`
  milliseconds. -/
  | forgetProviders (ttl : Nat)
  /-- Goes on under other settings with the sources that are remembered. -/
  | adopt (settings : Settings)

/-- What an action is answered with. -/
inductive Answer where
  | nothing
  | entity (outcome : Except AnalysisError (Checked Entity))
  | locals (outcome : Except AnalysisError EvaluatedLocals)
  | report (r : Report)
  | document (outcome : Except Document.Fault Report)
  | settings (s : Settings)

/-- An analyzer at a time. -/
structure Session where
  analyzer : Analyzer
  now : Nat

namespace Session

/-- A session that starts with an analyzer that remembers nothing. -/
def start (settings : Settings) : Session := ⟨.ofSettings settings, 0⟩

/-- What an analyzer answers when asked, and the analyzer afterwards. -/
def perform (s : Session) : Action → Traced (Answer × Session)
  | .validate .localValue d => do
    return (.locals (← Locals.evaluateDeclared s.analyzer.settings [d]), s)
  | .validate kind d => do
    let (outcome, analyzer) ← s.analyzer.validate s.now kind d
    return (.entity outcome, { s with analyzer })
  | .evaluateLocals declarations => do
    return (.locals (← Locals.evaluateDeclared s.analyzer.settings declarations), s)
  | .analyze declarations => do
    let (r, analyzer) ← s.analyzer.analyze s.now declarations
    return (.report r, { s with analyzer })
  | .analyzeDocument text => do
    let (outcome, analyzer) ← s.analyzer.analyzeDocument s.now text
    return (.document outcome, { s with analyzer })
  | .advance duration => pure (.nothing, { s with now := s.now + duration })
  | .forget => pure (.nothing, { s with analyzer := .ofSettings s.analyzer.settings })
  | .forgetModules ttl =>
    pure (.nothing, { s with analyzer := { s.analyzer with modules := .empty ttl false } })
  | .forgetProviders ttl =>
    pure (.nothing, { s with analyzer := { s.analyzer with providers := .empty ttl false } })
  | .adopt settings =>
    pure (.settings settings, { s with analyzer := { s.analyzer with settings } })

/-- The answers to actions, each with the session after it. -/
def run (s : Session) : List Action → Traced (List (Answer × Session))
  | [] => pure []
  | action :: rest => do
    let (answer, s) ← s.perform action
    return (answer, s) :: (← s.run rest)

end Session

end InfraConfig
