import InfraConfig.Analysis.Team
import InfraConfig.Proofs.Analysis.Batch
import InfraConfig.Proofs.Source.Faithful

/-! What is remembered does not show in what is answered. An analyzer that remembers sources
faithfully answers as one that is built for the occasion and remembers nothing
(`Analyzer.Faithful.outcome_eq`, `Analyzer.Faithful.report_eq`), and whatever it is asked, it goes on
to remember faithfully. So each answer of a session, and of analyzers that share sources, is the
answer of a new analyzer with the settings that are in force (`answers_eq_fresh`). -/
namespace InfraConfig

namespace Analyzer

/-- Nothing is remembered but what can be read. -/
structure Faithful (a : Analyzer) : Prop where
  modules : a.modules.Faithful
  providers : a.providers.Faithful

theorem faithful_ofSettings (settings : Settings) : (ofSettings settings).Faithful :=
  ⟨ModuleSources.faithful_empty _ _, ProviderSources.faithful_empty _ _⟩

variable {a : Analyzer} (now : Nat)

/-! ### Answers of a new analyzer -/

theorem Faithful.outcome_eq (h : a.Faithful) (kind : BlockKind) (d : Declaration) :
    (a.validate now kind d).value.1 = ((ofSettings a.settings).validate 0 kind d).value.1 := by
  have hfresh := faithful_ofSettings a.settings
  apply outcome_eq_of_answers d
  · rfl
  · exact fun source => (h.modules.answer now source).trans (hfresh.modules.answer 0 source).symm
  · exact fun address =>
      (h.providers.answer now address).trans (hfresh.providers.answer 0 address).symm

theorem Faithful.outcomes_eq (h : a.Faithful) (earlier blocks : List Declaration) :
    a.outcomes now earlier blocks = (ofSettings a.settings).outcomes 0 earlier blocks := by
  simp only [outcomes, resultAfter, h.outcome_eq now]

theorem Faithful.report_eq (h : a.Faithful) (declarations : List Declaration) :
    (a.analyze now declarations).value.1 =
      ((ofSettings a.settings).analyze 0 declarations).value.1 := by
  rw [value_analyze_fst, value_analyze_fst, h.outcomes_eq now]
  rfl

theorem value_analyzeDocument (a : Analyzer) (text : String) :
    (a.analyzeDocument now text).value =
      match Document.blocks text with
      | .error fault => (.error fault, a)
      | .ok blocks =>
        match (declarationsOf blocks).value with
        | .error fault => (.error fault, a)
        | .ok declarations =>
          (.ok (a.analyze now declarations).value.1, (a.analyze now declarations).value.2) := by
  rw [analyzeDocument]
  cases Document.blocks text with
  | error fault => rfl
  | ok blocks =>
    simp only [Traced.value_bind]
    cases (declarationsOf blocks).value <;> rfl

theorem Faithful.document_eq (h : a.Faithful) (text : String) :
    (a.analyzeDocument now text).value.1 =
      ((ofSettings a.settings).analyzeDocument 0 text).value.1 := by
  rw [value_analyzeDocument, value_analyzeDocument]
  split
  · rfl
  · split
    · rfl
    · simp only [h.report_eq now]

/-! ### What goes on to be remembered -/

theorem Faithful.validate (h : a.Faithful) (kind : BlockKind) (d : Declaration) :
    (a.validate now kind d).value.2.Faithful := by
  rw [value_validate]
  split
  · cases kind with
    | provider =>
      show (a.checkProvider now d).value.2.Faithful
      rw [value_checkProvider]
      split
      · exact h
      · exact ⟨h.modules, ProviderSources.faithful_resolve h.providers now _⟩
    | moduleCall =>
      show (a.checkModule now d).value.2.Faithful
      rw [value_checkModule]
      split
      · exact h
      · exact ⟨ModuleSources.faithful_resolve h.modules now _, h.providers⟩
    | _ => exact h
  · exact h

theorem settings_validate (a : Analyzer) (kind : BlockKind) (d : Declaration) :
    (a.validate now kind d).value.2.settings = a.settings :=
  (agree_validate a now d kind).settings

/-- What every check of a block keeps, the checks of all blocks keep. -/
theorem analyzeEach_keeps {P : Analyzer → Prop}
    (hstep : ∀ (a : Analyzer) (d : Declaration), P a → P (a.validate now d.kind d).value.2)
    (h : P a) (seen : List Identity) (r : Report) (blocks : List Declaration) :
    P (a.analyzeEach now seen r blocks).value.2 := by
  induction blocks generalizing a seen r with
  | nil => exact h
  | cons d rest ih =>
    rw [analyzeEach]
    split
    · exact ih h seen _
    · exact ih (hstep a d h) _ _

theorem Faithful.analyze (h : a.Faithful) (declarations : List Declaration) :
    (a.analyze now declarations).value.2.Faithful := by
  rw [value_analyze]
  exact analyzeEach_keeps now (fun _ d h => h.validate now d.kind d) h _ _ _

theorem settings_analyze (a : Analyzer) (declarations : List Declaration) :
    (a.analyze now declarations).value.2.settings = a.settings := by
  rw [value_analyze]
  exact analyzeEach_keeps now (P := fun b => b.settings = a.settings)
    (fun b d h => (settings_validate now b d.kind d).trans h) rfl _ _ _

/-- A document changes an analyzer as its declarations do, or not at all. -/
theorem analyzeDocument_cases (a : Analyzer) (text : String) :
    (a.analyzeDocument now text).value.2 = a ∨ ∃ declarations,
      (a.analyzeDocument now text).value.2 = (a.analyze now declarations).value.2 := by
  rw [value_analyzeDocument]
  split
  · exact .inl rfl
  · split
    · exact .inl rfl
    · exact .inr ⟨_, rfl⟩

end Analyzer

/-! ### Sessions -/

namespace Action

/-- What a new analyzer answers. -/
def freshAnswer (inForce : Settings) (action : Action) : Answer :=
  ((Session.start inForce).perform action).value.1

/-- The settings in force after an action. -/
def settingsAfter (inForce : Settings) : Action → Settings
  | .adopt settings => settings
  | _ => inForce

/-- The answers of new analyzers, one for each action, with the settings in force. -/
def freshAnswers (inForce : Settings) : List Action → List Answer
  | [] => []
  | action :: rest => action.freshAnswer inForce :: freshAnswers (action.settingsAfter inForce) rest

end Action

namespace Session

variable {s : Session} (h : s.analyzer.Faithful) (action : Action)
include h

theorem answer_perform :
    (s.perform action).value.1 = action.freshAnswer s.analyzer.settings := by
  cases action with
  | validate kind d =>
    cases kind with
    | localValue => rfl
    | _ => exact congrArg Answer.entity (h.outcome_eq s.now _ d)
  | analyze declarations => exact congrArg Answer.report (h.report_eq s.now declarations)
  | analyzeDocument text => exact congrArg Answer.document (h.document_eq s.now text)
  | _ => rfl

theorem faithful_perform : (s.perform action).value.2.analyzer.Faithful := by
  cases action with
  | validate kind d =>
    cases kind with
    | localValue => exact h
    | _ => exact h.validate s.now _ d
  | analyze declarations => exact h.analyze s.now declarations
  | analyzeDocument text =>
    show (s.analyzer.analyzeDocument s.now text).value.2.Faithful
    rcases s.analyzer.analyzeDocument_cases s.now text with hsame | ⟨declarations, hsame⟩
    · rw [hsame]
      exact h
    · rw [hsame]
      exact h.analyze s.now declarations
  | forget => exact Analyzer.faithful_ofSettings _
  | forgetModules ttl => exact ⟨ModuleSources.faithful_empty ttl false, h.providers⟩
  | forgetProviders ttl => exact ⟨h.modules, ProviderSources.faithful_empty ttl false⟩
  | adopt settings => exact ⟨h.modules, h.providers⟩
  | _ => exact h

omit h in
theorem settings_perform :
    (s.perform action).value.2.analyzer.settings = action.settingsAfter s.analyzer.settings := by
  cases action with
  | validate kind d =>
    cases kind with
    | localValue => rfl
    | _ => exact s.analyzer.settings_validate s.now _ d
  | analyze declarations => exact s.analyzer.settings_analyze s.now declarations
  | analyzeDocument text =>
    show (s.analyzer.analyzeDocument s.now text).value.2.settings = _
    rcases s.analyzer.analyzeDocument_cases s.now text with hsame | ⟨declarations, hsame⟩
    · rw [hsame]
      rfl
    · rw [hsame]
      exact s.analyzer.settings_analyze s.now declarations
  | _ => rfl

theorem answers_run (actions : List Action) :
    (s.run actions).value.map Prod.fst = Action.freshAnswers s.analyzer.settings actions := by
  induction actions generalizing s with
  | nil => rfl
  | cons action rest ih =>
    have hanswer := answer_perform h action
    have hrest := ih (faithful_perform h action)
    rw [settings_perform] at hrest
    rw [Action.freshAnswers, ← hanswer, ← hrest]
    rfl

omit h in
/-- The session after actions that begin with an analyzer that remembers nothing. -/
def after (settings : Settings) (actions : List Action) : Session :=
  actions.foldl (fun s action => (s.perform action).value.2) (start settings)

omit h in
theorem faithful_after (settings : Settings) (actions : List Action) :
    (after settings actions).analyzer.Faithful := by
  suffices hrun : ∀ s : Session, s.analyzer.Faithful →
      (actions.foldl (fun s action => (s.perform action).value.2) s).analyzer.Faithful from
    hrun _ (Analyzer.faithful_ofSettings settings)
  induction actions with
  | nil => exact fun _ h => h
  | cons action rest ih => exact fun s h => ih _ (faithful_perform h action)

end Session

/-! ### Teams -/

namespace Turn

/-- What a new analyzer answers in the place of the member whose turn it is. -/
def freshAnswer (inForce : List Settings) (turn : Turn) : Answer :=
  match inForce[turn.member]? with
  | none => .nothing
  | some settings => turn.action.freshAnswer settings

/-- The settings in force, of each member, after a turn. -/
def settingsAfter (inForce : List Settings) (turn : Turn) : List Settings :=
  match inForce[turn.member]?, turn.action with
  | some _, .adopt settings => inForce ++ [settings]
  | _, _ => inForce

/-- The answers of new analyzers, one for each turn, with the settings in force. -/
def freshAnswers (inForce : List Settings) : List Turn → List Answer
  | [] => []
  | turn :: rest => turn.freshAnswer inForce :: freshAnswers (turn.settingsAfter inForce) rest

end Turn

namespace Team

/-- The settings in force, of each member. -/
def settings (t : Team) : List Settings := t.members.map Member.settings

/-- Nothing is remembered at any place but what can be read. -/
structure Faithful (t : Team) : Prop where
  modules : ∀ place, (t.modules place).Faithful
  providers : ∀ place, (t.providers place).Faithful

variable {t : Team} (h : t.Faithful) (turn : Turn)
include h

theorem Faithful.analyzer (m : Member) : (t.analyzer m).Faithful :=
  ⟨h.modules m.modulesAt, h.providers m.providersAt⟩

theorem Faithful.keep (m : Member) {a : Analyzer} (ha : a.Faithful) : (t.keep m a).Faithful := by
  constructor
  · intro place
    show (if place = m.modulesAt then a.modules else t.modules place).Faithful
    split
    · exact ha.modules
    · exact h.modules place
  · intro place
    show (if place = m.providersAt then a.providers else t.providers place).Faithful
    split
    · exact ha.providers
    · exact h.providers place

theorem answer_perform : (t.perform turn).value.1 = turn.freshAnswer t.settings := by
  rw [perform, Turn.freshAnswer, settings, List.getElem?_map]
  cases t.members[turn.member]? with
  | none => rfl
  | some m => exact Session.answer_perform (s := ⟨t.analyzer m, turn.now⟩) (h.analyzer m) turn.action

theorem faithful_perform : (t.perform turn).value.2.Faithful := by
  rw [perform]
  cases t.members[turn.member]? with
  | none => exact h
  | some m =>
    have hafter := Session.faithful_perform (s := ⟨t.analyzer m, turn.now⟩) (h.analyzer m)
      turn.action
    have hkept := h.keep (t.moved m turn.action) hafter
    exact ⟨hkept.modules, hkept.providers⟩

omit h in
/-- A member that moves keeps its settings. -/
theorem settings_moved (m : Member) (action : Action) : (t.moved m action).settings = m.settings := by
  cases action <;> rfl

omit h in
theorem settings_set_moved {i : Nat} {m : Member} (hm : t.members[i]? = some m) (action : Action) :
    (t.members.set i (t.moved m action)).map Member.settings = t.settings := by
  obtain ⟨hlt, hget⟩ := List.getElem?_eq_some_iff.1 hm
  have hlt' : i < (t.members.map Member.settings).length := by simpa using hlt
  have hkept : m.settings = (t.members.map Member.settings)[i] := by simp [hget]
  rw [List.map_set, settings_moved, hkept, List.set_getElem_self]
  rfl

omit h in
theorem settings_perform : (t.perform turn).value.2.settings = turn.settingsAfter t.settings := by
  have hlookup : t.settings[turn.member]? = t.members[turn.member]?.map Member.settings :=
    List.getElem?_map
  rw [perform, Turn.settingsAfter, hlookup]
  cases hm : t.members[turn.member]? with
  | none => rfl
  | some m =>
    have hset := settings_set_moved hm turn.action
    show (t.membersAfter turn.member m turn.action).map Member.settings = _
    cases haction : turn.action with
    | adopt settings => simp [membersAfter, Team.settings]
    | _ =>
      rw [haction] at hset
      exact hset

theorem answers_run (turns : List Turn) :
    (t.run turns).value = Turn.freshAnswers t.settings turns := by
  induction turns generalizing t with
  | nil => rfl
  | cons turn rest ih =>
    have hanswer := answer_perform h turn
    have hrest := ih (faithful_perform h turn)
    rw [settings_perform] at hrest
    rw [Turn.freshAnswers, ← hanswer, ← hrest]
    rfl

end Team

/-- Whatever was asked before, by whatever analyzers that share what they remember, each answer is
that of an analyzer built for the occasion. -/
theorem answers_eq_fresh (settings : Settings) :
    (∀ actions, ((Session.start settings).run actions).value.map Prod.fst =
      Action.freshAnswers settings actions) ∧
    ∀ turns, ((Team.start settings).run turns).value = Turn.freshAnswers [settings] turns := by
  constructor
  · exact fun actions => Session.answers_run (Analyzer.faithful_ofSettings settings) actions
  · have h : (Team.start settings).Faithful :=
      ⟨fun _ => ModuleSources.faithful_empty _ _, fun _ => ProviderSources.faithful_empty _ _⟩
    exact fun turns => Team.answers_run h turns

end InfraConfig
