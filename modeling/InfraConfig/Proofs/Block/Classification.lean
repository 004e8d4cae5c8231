import InfraConfig.Proofs.Analysis.Attribution
import InfraConfig.Proofs.Analysis.Freshness

/-! What a classification keeps of a source. A source is cut at the first `?ref=`, so that no further
one is left in the path, and nothing of the source is lost but an empty version
(`ModuleSource.lossless_classify`). The path is classified as itself, and so is the text that path and
version make up (`ModuleSource.classify_text`). An accepted module shows the classification
of its source, and so it shows a source and a version that are classified as its own source is
(`lossless_and_classified_again`). -/
namespace InfraConfig

open Text (splitFirst? splitFirst?_eq splitFirst?_eq_none_iff not_infix_of_splitFirst?)

namespace ModuleSource

/-- The text that a path and a version make up. -/
def text (c : ModuleSource) : String :=
  match c.version with
  | none => c.path
  | some version => c.path ++ "?ref=" ++ version

/-- A classification keeps what there is in a source. -/
structure Lossless (source : String) (c : ModuleSource) : Prop where
  /-- No version is left in the path. -/
  path : ¬ versionMark <:+: c.path.toList
  version : ∀ version, c.version = some version →
    version ≠ "" ∧ source = c.path ++ "?ref=" ++ version
  noVersion : c.version = none → source = c.path ∨ source = c.path ++ "?ref="
  /-- The path alone is classified as itself. -/
  classify_path : classify c.path = ⟨c.path, none, c.kind⟩

/-- A text without a mark is a path. -/
theorem classify_of_unmarked {source : String} (h : ¬ versionMark <:+: source.toList) :
    classify source = ⟨source, none, kindOf source.toList⟩ := by
  rw [classify, classifyChars, splitFirst?_eq_none_iff.2 h]
  exact congrArg (ModuleSource.mk · none (kindOf source.toList)) String.ofList_toList

/-- A text is cut at the first mark. -/
theorem classify_of_split {source : String} {path version : List Char}
    (h : splitFirst? versionMark source.toList = some (path, version)) :
    classify source = ⟨String.ofList path, if version = [] then none
      else some (String.ofList version), kindOf path⟩ := by
  rw [classify, classifyChars, h]

theorem lossless_classify (source : String) : Lossless source (classify source) := by
  cases hsplit : splitFirst? versionMark source.toList with
  | none =>
    have hunmarked := splitFirst?_eq_none_iff.1 hsplit
    rw [classify_of_unmarked hunmarked]
    exact ⟨hunmarked, nofun, fun _ => .inl rfl, classify_of_unmarked hunmarked⟩
  | some parts =>
    obtain ⟨path, version⟩ := parts
    have hunmarked : ¬ versionMark <:+: (String.ofList path).toList := by
      rw [String.toList_ofList]
      exact not_infix_of_splitFirst? (by decide) hsplit
    have hsource : source = String.ofList path ++ "?ref=" ++ String.ofList version := by
      have hparts := congrArg String.ofList (splitFirst?_eq hsplit)
      rwa [String.ofList_toList, String.ofList_append, String.ofList_append, versionMark,
        String.ofList_toList] at hparts
    have hpath := classify_of_unmarked hunmarked
    rw [classify_of_split hsplit]
    -- An empty version counts as none, so that its mark is the one thing that is lost.
    by_cases hempty : version = []
    · subst hempty
      rw [if_pos rfl]
      refine ⟨hunmarked, nofun, fun _ => .inr ?_, ?_⟩
      · rw [hsource]
        exact String.append_empty
      · rw [hpath, String.toList_ofList]
    · rw [if_neg hempty]
      refine ⟨hunmarked, fun shown hshown => ?_, nofun, ?_⟩
      · cases hshown
        exact ⟨String.ofList_eq_empty_iff.not.2 hempty, hsource⟩
      · rw [hpath, String.toList_ofList]

/-- Path and version together are classified as they are. -/
theorem classify_text (source : String) : classify (classify source).text = classify source := by
  have h := lossless_classify source
  cases hversion : (classify source).version with
  | none =>
    have hpath : classify source = ⟨(classify source).path, none, (classify source).kind⟩ := by
      rw [← hversion]
    rw [text, hversion]
    exact h.classify_path.trans hpath.symm
  | some version =>
    obtain ⟨-, hsource⟩ := h.version version hversion
    rw [text, hversion]
    exact congrArg classify hsource.symm

end ModuleSource

/-- The classification that a module shows. -/
def ModuleCall.classification (m : ModuleCall) : ModuleSource :=
  ⟨m.source, m.resolvedVersion, m.sourceKind⟩

namespace Analyzer

variable {a : Analyzer} {now : Nat} {d : Declaration} {checked : Checked Entity}

/-- A module without a version of its own shows the classification of its source. -/
theorem Faithful.classification_of_validate (h : a.Faithful)
    (hversion : d.presentAttribute? "version" = none)
    (haccepted : (a.validate now .moduleCall d).value.1 = .ok checked) :
    ∃ source m, d.string? "source" = some source ∧ checked.entity = .moduleCall m ∧
      m.classification = ModuleSource.classify source := by
  have hnone : d.string? "version" = none := by
    rw [Declaration.string?_eq, hversion, Option.bind_none]
  rw [value_validate] at haccepted
  split at haccepted
  · change (a.checkModule now d).value.1 = _ at haccepted
    rw [value_checkModule] at haccepted
    cases hread : ModuleRequest.ofDeclaration a.settings d with
    | error e =>
      rw [hread] at haccepted
      cases haccepted
    | ok request =>
      simp only [hread, h.modules.answer] at haccepted
      have hsource := (ModuleRequest.settles_ofDeclaration a.settings d).holds hread
      cases hcall : (ModuleCall.complete d request (ModuleSource.classify request.source)).outcome with
      | error e =>
        rw [hcall] at haccepted
        cases haccepted
      | ok c =>
        rw [hcall] at haccepted
        cases haccepted
        obtain ⟨hentity, -⟩ := (ModuleCall.settles_complete d request _).holds hcall
        refine ⟨request.source, c.entity, hsource, rfl, ?_⟩
        rw [hentity, hnone, Option.or_none]
        rfl
  · cases haccepted

end Analyzer

open ModuleSource in
/-- A classification keeps what there is in a source, and what an accepted module shows of its
source, whatever was asked before, is classified as the source is. -/
theorem lossless_and_classified_again :
    (∀ source, Lossless source (classify source)) ∧
    ∀ (settings : Settings) (actions : List Action) (d : Declaration) (m : ModuleCall)
      (warnings : List Diagnostic),
      d.presentAttribute? "version" = none →
      ((Session.after settings actions).perform (.validate .moduleCall d)).value.1 =
        .entity (.ok ⟨.moduleCall m, warnings⟩) →
      ∃ source, d.string? "source" = some source ∧ classify source = m.classification ∧
        classify m.classification.text = m.classification := by
  refine ⟨lossless_classify, fun settings actions d m warnings hversion haccepted => ?_⟩
  have hfaithful := Session.faithful_after settings actions
  obtain ⟨source, shown, hsource, hentity, hshown⟩ :=
    hfaithful.classification_of_validate hversion (Answer.entity.inj haccepted)
  cases hentity
  refine ⟨source, hsource, hshown.symm, ?_⟩
  rw [hshown]
  exact classify_text source

/-- Two marks in a source, and a version that is null: the version is all that follows the first
mark, also when the source is remembered. -/
theorem lossless_and_classified_again_two_marks :
    let d : Declaration := ⟨.moduleCall, "net",
      [("source", .string "git::x?ref=v1?ref=2"), ("version", .null)]⟩
    let m : ModuleCall := ⟨"net", "git::x", some "v1?ref=2", .git, .origin⟩
    d.presentAttribute? "version" = none ∧
      ((Session.after .default [.validate .moduleCall d]).perform
          (.validate .moduleCall d)).value.1 = .entity (.ok ⟨.moduleCall m, []⟩) ∧
      m.classification.text = "git::x?ref=v1?ref=2" ∧
      ∃ source, d.string? "source" = some source ∧
        ModuleSource.classify source = m.classification ∧
        ModuleSource.classify m.classification.text = m.classification := by
  intro d m
  have hshown : (match ((Session.after .default [.validate .moduleCall d]).perform
        (.validate .moduleCall d)).value.1 with
      | .entity (.ok ⟨.moduleCall shown, warnings⟩) => some (shown, warnings)
      | _ => none) = some (m, []) := by
    decide +kernel
  split at hshown
  · next haccepted =>
    cases hshown
    exact ⟨rfl, haccepted, by decide +kernel,
      lossless_and_classified_again.2 _ _ d m [] rfl haccepted⟩
  · cases hshown

end InfraConfig
