import InfraConfig.Proofs.Analysis.Outcome
import InfraConfig.Proofs.Value.Paths

/-! The sensitive attributes of a provider. The search carries the text of the path so far, and the
top is told by its being empty; as no key at the top is empty, the texts it collects are those of
the paths to the keys that look sensitive (`sensitivePaths_eq_keyPaths`). So an accepted provider
lists all of these keys and no others, at any depth, in the order of the document
(`Analyzer.sensitive_validate`). -/
namespace InfraConfig

open Value (Step)

/-- How a path is written: its steps with dots between. -/
def Value.dotted (path : List Step) : String := ".".intercalate (path.map Step.text)

namespace ProviderConfiguration

/-! ### The search -/

/-- The text of a path with a step more; that of the path to the top is empty. -/
def extendText (path : String) (step : Step) : String :=
  if path = "" then step.text else s!"{path}.{step.text}"

theorem extendText_of_ne {path : String} (h : path ≠ "") (step : Step) :
    extendText path step = s!"{path}.{step.text}" := if_neg h

theorem extendText_ne {path : String} (h : path ≠ "") (step : Step) :
    extendText path step ≠ "" := by
  rw [extendText_of_ne h]
  intro hempty
  have hdot := (String.append_eq_empty_iff.1 (String.append_eq_empty_iff.1 hempty).1).2
  exact absurd hdot (by decide)

/-- Below the top, steps are added to a text with dots between. -/
theorem foldl_extendText {path : String} (h : path ≠ "") (steps : List Step) :
    steps.foldl extendText path = ".".intercalate (path :: steps.map Step.text) := by
  induction steps generalizing path with
  | nil => rfl
  | cons step rest ih =>
    rw [List.foldl_cons, ih (extendText_ne h step), extendText_of_ne h]
    rfl

variable (patterns : List (List Char)) (path : String)

theorem sensitivePathsOfItems_eq (index : Nat) (items : List Value) :
    sensitivePathsOfItems patterns path index items =
      (items.zipIdx index).flatMap fun x => sensitivePaths patterns s!"{path}.{x.2}" x.1 := by
  induction items generalizing index with
  | nil => rfl
  | cons item rest ih => rw [sensitivePathsOfItems, ih, List.zipIdx_cons, List.flatMap_cons]

theorem sensitivePathsOfMembers_eq (index : Nat) (members : List (String × Value)) :
    sensitivePathsOfMembers patterns path members =
      (members.zipIdx index).flatMap fun x =>
        let inner := if path = "" then x.1.1 else s!"{path}.{x.1.1}"
        (if looksSensitive patterns x.1.1 then [inner] else []) ++
          sensitivePaths patterns inner x.1.2 := by
  induction members generalizing index with
  | nil => rfl
  | cons member rest ih =>
    rw [sensitivePathsOfMembers, ih (index + 1), List.zipIdx_cons, List.flatMap_cons]

/-- Where the search may stand: below the top, or at the top of an object whose keys are not
empty. -/
def Named (v : Value) : Prop :=
  path ≠ "" ∨ ∃ members, v = .object members ∧ ∀ member ∈ members, member.1 ≠ ""

variable {path}

/-- What a search finds in a value, it finds at its parts and below them. -/
theorem sensitivePaths_eq_flatMap {v : Value} (h : Named path v) :
    sensitivePaths patterns path v = v.parts.flatMap fun part =>
      (if part.1.isWanted (looksSensitive patterns) then [extendText path part.1] else []) ++
        sensitivePaths patterns (extendText path part.1) part.2 := by
  cases v with
  | object members =>
    rw [sensitivePaths, sensitivePathsOfMembers_eq patterns path 0, Value.parts, List.flatMap_map]
    rfl
  | list items =>
    have hpath : path ≠ "" := by
      rcases h with hpath | ⟨members, hobject, -⟩
      · exact hpath
      · cases hobject
    rw [sensitivePaths, sensitivePathsOfItems_eq, Value.parts, List.flatMap_map]
    simp only [extendText_of_ne hpath]
    rfl
  | _ => rfl

/-- Below each part the search does not stand at the top. -/
theorem Named.extendText_ne {v : Value} (h : Named path v) {part : Step × Value}
    (hpart : part ∈ v.parts) : extendText path part.1 ≠ "" := by
  rcases h with hpath | ⟨members, rfl, hkeys⟩
  · exact ProviderConfiguration.extendText_ne hpath part.1
  · obtain ⟨⟨⟨key, value⟩, position⟩, hmem, rfl⟩ := List.mem_map.1 hpart
    by_cases hpath : path = ""
    · rw [extendText, if_pos hpath]
      exact hkeys _ (List.fst_mem_of_mem_zipIdx hmem)
    · exact ProviderConfiguration.extendText_ne hpath _

/-- A search collects the texts of the paths to the keys that look sensitive. -/
theorem sensitivePaths_eq_keyPaths {v : Value} (h : Named path v) :
    sensitivePaths patterns path v =
      (v.keyPaths (looksSensitive patterns)).map (List.foldl extendText path) := by
  induction v using Value.keyPaths.induct generalizing path with
  | case1 v ih =>
    rw [sensitivePaths_eq_flatMap patterns h, Value.keyPaths_eq, List.map_flatMap]
    refine List.flatMap_congr fun part hpart => ?_
    have hbelow := ih part hpart (.inl (h.extendText_ne hpart))
    rw [Value.pathsThrough, List.map_append, List.map_map, hbelow]
    congr 1
    split <;> rfl

variable {patterns} in
/-- At the top, the text that is collected is the path with dots between the steps. -/
theorem foldl_extendText_top {wanted : String → Bool} {v : Value} {steps : List Step}
    (h : Named "" v) (hmem : steps ∈ v.keyPaths wanted) :
    steps.foldl extendText "" = Value.dotted steps := by
  obtain ⟨step, rest, rfl⟩ := List.exists_cons_of_ne_nil (Value.ne_nil_of_mem_keyPaths hmem)
  obtain ⟨inner, hpart, -⟩ := Value.mem_keyPaths_cons.1 hmem
  exact foldl_extendText (h.extendText_ne hpart) rest

/-! ### The check -/

variable {settings : Settings} {d : Declaration}

/-- What is listed is what the search finds. -/
theorem sensitiveAttributes_of_complete {request : ProviderRequest}
    {source : Except InvalidAddress ProviderAddress} {checked : Checked ProviderConfiguration}
    (h : (complete settings d request source).outcome = .ok checked) :
    checked.entity.sensitiveAttributes =
      sensitivePaths (patternsOf settings) "" (.object (configurationOf d)) := by
  cases source with
  | error e => cases h
  | ok source =>
    rw [complete] at h
    dsimp only at h
    split at h
    · rw [Check.outcome_bind] at h
      cases h
      rfl
    · cases h
      rfl

/-- The configuration is what the declaration holds beside the address. -/
theorem configurationOf_eq (d : Declaration) :
    configurationOf d =
      d.attributes.filter fun member => member.1 ∉ ["alias", "version", "source"] := by
  refine List.filter_congr fun member _ => ?_
  simp [addressingKeys]

end ProviderConfiguration

namespace Analyzer

open ProviderConfiguration

variable (a : Analyzer) (now : Nat) {d : Declaration} {checked : Checked Entity}

/-- What is accepted as a provider has been completed from the declaration. -/
theorem exists_complete_of_validate (h : (a.validate now .provider d).value.1 = .ok checked) :
    ∃ request source c, (complete a.settings d request source).outcome = .ok c ∧
      checked = c.map .provider := by
  rw [value_validate] at h
  split at h
  · change (a.checkProvider now d).value.1 = _ at h
    rw [value_checkProvider] at h
    split at h
    · cases h
    · next request _ =>
      dsimp only at h
      cases hc : (complete a.settings d request
          (a.providers.answer now request.address)).outcome with
      | error e =>
        rw [hc] at h
        cases h
      | ok c =>
        rw [hc] at h
        cases h
        exact ⟨request, _, c, hc, rfl⟩
  · cases h

/-- An accepted provider lists the paths to the keys that look sensitive, whatever they stand in
beside the address, and whether it has sensitive attributes is whether it lists any. -/
theorem sensitive_validate (haccepted : (a.validate now .provider d).value.1 = .ok checked)
    (hkeys : ∀ key ∈ Keyed.keys d.attributes, key ≠ "") :
    ∃ p found, checked.entity = .provider p ∧
      (Value.object (d.attributes.filter fun member =>
        member.1 ∉ ["alias", "version", "source"])).FindsKeys
          a.settings.isSensitiveAttribute found ∧
      p.sensitiveAttributes = found.map Value.dotted ∧
      (p.hasSensitiveAttributes = true ↔ p.sensitiveAttributes ≠ []) := by
  obtain ⟨request, source, c, hcomplete, rfl⟩ := a.exists_complete_of_validate now haccepted
  rw [← configurationOf_eq]
  have hlooks : looksSensitive (patternsOf a.settings) = a.settings.isSensitiveAttribute :=
    funext (looksSensitive_patternsOf a.settings)
  have hnamed : Named "" (.object (configurationOf d)) := by
    refine .inr ⟨_, rfl, fun member hmem => ?_⟩
    exact hkeys _ (List.mem_map.2 ⟨member, (List.mem_filter.1 hmem).1, rfl⟩)
  have hlisted : c.entity.sensitiveAttributes =
      ((Value.object (configurationOf d)).keyPaths a.settings.isSensitiveAttribute).map
        Value.dotted := by
    rw [sensitiveAttributes_of_complete hcomplete, sensitivePaths_eq_keyPaths _ hnamed, hlooks]
    exact List.map_congr_left fun path hpath => foldl_extendText_top hnamed hpath
  refine ⟨c.entity, _, rfl, Value.findsKeys_keyPaths _ _, hlisted, ?_⟩
  rw [hasSensitiveAttributes, Bool.not_eq_true', List.isEmpty_eq_false_iff]

/-- A key in an object in a list, a key below a key that looks sensitive too, and an alias whose key
does not count although the settings have it for sensitive. -/
theorem sensitive_validate_nested :
    let settings := { Settings.default with sensitivePatterns := ["TOKEN", "secret", "alias"] }
    let d : Declaration := ⟨.provider, "aws", [
      ("alias", .string "west"),
      ("roles", .list [.null, .object [("arn", .string "arn"), ("Token", .string "t")]]),
      ("secrets", .object [("", .list []), ("my_secret", .object [("token", .null)])])]⟩
    ∃ checked, ((ofSettings settings).validate 0 .provider d).value.1 = .ok checked ∧
      (∀ key ∈ Keyed.keys d.attributes, key ≠ "") ∧
      (∃ p, checked.entity = .provider p ∧ p.sensitiveAttributes =
        ["roles.1.Token", "secrets", "secrets.my_secret", "secrets.my_secret.token"]) ∧
      ∃ p found, checked.entity = .provider p ∧
        (Value.object (d.attributes.filter fun member =>
          member.1 ∉ ["alias", "version", "source"])).FindsKeys
            settings.isSensitiveAttribute found ∧
        p.sensitiveAttributes = found.map Value.dotted ∧
        (p.hasSensitiveAttributes = true ↔ p.sensitiveAttributes ≠ []) := by
  intro settings d
  have hkeys : ∀ key ∈ Keyed.keys d.attributes, key ≠ "" := by decide
  have hlisted : (match ((ofSettings settings).validate 0 .provider d).value.1 with
      | .ok ⟨.provider p, _⟩ => p.sensitiveAttributes
      | _ => []) =
        ["roles.1.Token", "secrets", "secrets.my_secret", "secrets.my_secret.token"] := by
    decide +kernel
  split at hlisted
  · next p _ haccepted =>
    exact ⟨_, haccepted, hkeys, ⟨p, rfl, hlisted⟩, sensitive_validate _ 0 haccepted hkeys⟩
  · cases hlisted

end Analyzer

end InfraConfig
