import InfraConfig.Analysis.Analyzer
import InfraConfig.Proofs.Source.Answers

/-! What a check answers while no time passes. It depends on the settings and on the answers for
sources (`outcome_eq_of_agree`), and it changes neither (`agree_validate`); so checks do not see each
other. What is accepted is an entity of the kind that was asked for (`kind_of_validate`). -/
namespace InfraConfig

/-- The kind of declarations that an entity comes from. -/
def Entity.kind : Entity → BlockKind
  | .localValue _ => .localValue
  | .variable _ => .variable
  | .output _ => .output
  | .provider _ => .provider
  | .moduleCall _ => .moduleCall
  | .dataSource _ => .dataSource

namespace Analyzer

/-- Two analyzers work under the same settings and have the same answers at a time. -/
structure Agree (now : Nat) (a b : Analyzer) : Prop where
  settings : a.settings = b.settings
  modules : ∀ source, a.modules.answer now source = b.modules.answer now source
  providers : ∀ address, a.providers.answer now address = b.providers.answer now address

theorem Agree.refl (now : Nat) (a : Analyzer) : Agree now a a :=
  ⟨rfl, fun _ => rfl, fun _ => rfl⟩

theorem Agree.trans {now : Nat} {a b c : Analyzer} (hab : Agree now a b) (hbc : Agree now b c) :
    Agree now a c :=
  ⟨hab.settings.trans hbc.settings, fun source => (hab.modules source).trans (hbc.modules source),
    fun address => (hab.providers address).trans (hbc.providers address)⟩

section Checks
variable (a : Analyzer) (now : Nat) (d : Declaration)

theorem value_checkProvider :
    (a.checkProvider now d).value =
      match ProviderRequest.ofDeclaration d with
      | .error e => (.error e, a)
      | .ok request =>
        ((ProviderConfiguration.complete a.settings d request
            (a.providers.answer now request.address)).outcome.map (Checked.map .provider),
          { a with providers := (a.providers.resolve now request.address).value.2 }) := by
  unfold checkProvider
  cases ProviderRequest.ofDeclaration d with
  | error e => rfl
  | ok request =>
    simp only [← ProviderSources.value_resolve_fst]
    rfl

theorem value_checkModule :
    (a.checkModule now d).value =
      match ModuleRequest.ofDeclaration a.settings d with
      | .error e => (.error e, a)
      | .ok request =>
        ((ModuleCall.complete d request
            (a.modules.answer now request.source)).outcome.map (Checked.map .moduleCall),
          { a with modules := (a.modules.resolve now request.source).value.2 }) := by
  unfold checkModule
  cases ModuleRequest.ofDeclaration a.settings d with
  | error e => rfl
  | ok request =>
    simp only [← ModuleSources.value_resolve_fst]
    rfl

theorem value_settle {α : Type} (entity : α → Entity) (check : Check (Checked α)) :
    (a.settle entity check).value = (check.outcome.map (Checked.map entity), a) := rfl

theorem value_validate (kind : BlockKind) :
    (a.validate now kind d).value =
      if d.kind = kind then (a.check now kind d).value
      else (.error (d.misshapen (.wrongKind kind)), a) := by
  unfold validate
  split <;> rfl

/-- A check changes no answer. -/
theorem agree_validate (kind : BlockKind) : Agree now (a.validate now kind d).value.2 a := by
  rw [value_validate]
  split
  · cases kind with
    | provider =>
      show Agree now (a.checkProvider now d).value.2 a
      rw [value_checkProvider]
      split
      · exact Agree.refl now a
      · next request _ =>
        exact ⟨rfl, fun _ => rfl, a.providers.answer_resolve now request.address⟩
    | moduleCall =>
      show Agree now (a.checkModule now d).value.2 a
      rw [value_checkModule]
      split
      · exact Agree.refl now a
      · next request _ =>
        exact ⟨rfl, a.modules.answer_resolve now request.source, fun _ => rfl⟩
    | _ => exact Agree.refl now a
  · exact Agree.refl now a

variable {a now} in
/-- The outcome of a check depends on the time and on what is remembered only by the answers for
sources. -/
theorem outcome_eq_of_answers {b : Analyzer} {later : Nat} (hsettings : a.settings = b.settings)
    (hmodules : ∀ source, a.modules.answer now source = b.modules.answer later source)
    (hproviders : ∀ address, a.providers.answer now address = b.providers.answer later address)
    (kind : BlockKind) :
    (a.validate now kind d).value.1 = (b.validate later kind d).value.1 := by
  rw [value_validate, value_validate]
  split
  · cases kind with
    | provider =>
      show (a.checkProvider now d).value.1 = (b.checkProvider later d).value.1
      rw [value_checkProvider, value_checkProvider]
      cases ProviderRequest.ofDeclaration d with
      | error e => rfl
      | ok request => simp only [hsettings, hproviders]
    | moduleCall =>
      show (a.checkModule now d).value.1 = (b.checkModule later d).value.1
      rw [value_checkModule, value_checkModule, hsettings]
      cases ModuleRequest.ofDeclaration b.settings d with
      | error e => rfl
      | ok request => simp only [hmodules]
    | _ => simp only [check, hsettings, value_settle]
  · rfl

variable {a now} in
theorem outcome_eq_of_agree {b : Analyzer} (h : Agree now a b) (kind : BlockKind) :
    (a.validate now kind d).value.1 = (b.validate now kind d).value.1 :=
  outcome_eq_of_answers d h.settings h.modules h.providers kind

theorem kind_of_map {α : Type} {entity : α → Entity} {outcome : Except AnalysisError (Checked α)}
    {checked : Checked Entity} (h : outcome.map (Checked.map entity) = .ok checked)
    {kind : BlockKind} (hkind : ∀ x, (entity x).kind = kind) : checked.entity.kind = kind := by
  cases outcome with
  | error e => cases h
  | ok inner =>
    cases h
    exact hkind inner.entity

variable {a now d} in
/-- What is accepted as of a kind is an entity of that kind. -/
theorem kind_of_validate {kind : BlockKind} {checked : Checked Entity}
    (h : (a.validate now kind d).value.1 = .ok checked) : checked.entity.kind = kind := by
  rw [value_validate] at h
  split at h
  · cases kind with
    | provider =>
      change (a.checkProvider now d).value.1 = _ at h
      rw [value_checkProvider] at h
      split at h
      · cases h
      · exact kind_of_map h fun _ => rfl
    | moduleCall =>
      change (a.checkModule now d).value.1 = _ at h
      rw [value_checkModule] at h
      split at h
      · cases h
      · exact kind_of_map h fun _ => rfl
    | _ => exact kind_of_map h fun _ => rfl
  · cases h

end Checks

end Analyzer

end InfraConfig
