import InfraConfig.Locals.Evaluator

/-! Substitution only looks at the references of a value. The references are read off the same
pieces and fragments that substitution fills, though by another walk: whatever a fill resolves is
among the references (`reference_mem_ofInterpolation`). So two environments that resolve these
alike substitute alike (`substitute_congr_resolve`), and in particular two that agree on the names
of the local values that the value depends on (`substitute_congr`). Of the entries of an evaluator
those count that these names have, and of each entry the value if it is evaluated
(`substitute_eq_of_agreeAt`). -/
namespace InfraConfig

open Text (allBlank)
open Template (Piece pieces whole?)

namespace Reference

/-- A reference that a compound expression is filled at is one of its references. -/
theorem reference_mem_ofInterpolation {chars raw : List Char} {r : Reference}
    (hcompound : ofChars? raw = none) (h : Fragment.reference chars r ∈ fragments raw) :
    r ∈ ofInterpolation raw := by
  rw [ofInterpolation, hcompound, references_embedded]
  exact List.mem_filterMap.2 ⟨_, h, rfl⟩

theorem mem_ofText {raw s : List Char} {r : Reference} (hpiece : .interpolation raw ∈ pieces s)
    (hblank : allBlank raw = false) (h : r ∈ ofInterpolation raw) : r ∈ ofText s := by
  refine List.mem_flatMap.2 ⟨.interpolation raw, hpiece, ?_⟩
  simpa [ofPiece, hblank] using h

end Reference

namespace Value

/-- The names that a value depends on are those of its references to local values. -/
theorem mem_localNames {v : Value} {name : String} :
    name ∈ v.localNames ↔ ∃ path, .localValue name path ∈ v.allReferences := by
  simp only [localNames, references, List.mem_eraseDups, List.mem_filterMap]
  constructor
  · rintro ⟨r, hr, hname⟩
    cases r with
    | localValue found path =>
      obtain rfl : found = name := by simpa [Reference.localName?] using hname
      exact ⟨path, hr⟩
    | external written => simp [Reference.localName?] at hname
  · rintro ⟨path, h⟩
    exact ⟨_, h, rfl⟩

end Value

namespace Environment

variable {env env' : Environment}

theorem fillFragment_congr {fragment : Fragment}
    (h : ∀ chars r, fragment = .reference chars r → env.resolve r = env'.resolve r) :
    env.fillFragment fragment = env'.fillFragment fragment := by
  cases fragment with
  | text chars => rfl
  | reference chars r => rw [fillFragment, fillFragment, h chars r rfl]

theorem fillPiece_congr {piece : Piece}
    (h : ∀ r ∈ Reference.ofPiece piece, env.resolve r = env'.resolve r) :
    env.fillPiece piece = env'.fillPiece piece := by
  cases piece with
  | char c => rfl
  | escape => rfl
  | interpolation raw =>
    cases hblank : allBlank raw with
    | true => simp [fillPiece, hblank]
    | false =>
      simp only [Reference.ofPiece, hblank] at h
      cases hr : Reference.ofChars? raw with
      | some r =>
        have hresolve := h r (by simp [Reference.ofInterpolation, hr])
        simp only [fillPiece, hblank, hr, hresolve]
      | none =>
        have hfill : (Reference.fragments raw).map env.fillFragment =
            (Reference.fragments raw).map env'.fillFragment := by
          apply List.map_congr_left
          intro fragment hfragment
          apply fillFragment_congr
          rintro chars r rfl
          exact h r (Reference.reference_mem_ofInterpolation hr hfragment)
        simp only [fillPiece, hblank, hr, List.flatMap_def, hfill]

theorem fillText_congr {s : List Char}
    (h : ∀ r ∈ Reference.ofText s, env.resolve r = env'.resolve r) :
    env.fillText s = env'.fillText s := by
  unfold fillText
  rw [List.flatMap_def, List.flatMap_def]
  congr 1
  apply List.map_congr_left
  intro piece hpiece
  exact fillPiece_congr fun r hr => h r (List.mem_flatMap.2 ⟨piece, hpiece, hr⟩)

/-- The value of an interpolation that makes up the whole text. -/
theorem whole_congr {s : List Char}
    (h : ∀ r ∈ Reference.ofText s, env.resolve r = env'.resolve r) :
    ((whole? s).bind fun raw => (Reference.ofChars? raw).bind env.resolve) =
      (whole? s).bind fun raw => (Reference.ofChars? raw).bind env'.resolve := by
  cases hraw : whole? s with
  | none => rfl
  | some raw =>
    obtain ⟨hpieces, hblank⟩ := Template.pieces_of_whole? hraw
    have hpiece : .interpolation raw ∈ pieces s := by simp [hpieces]
    cases hr : Reference.ofChars? raw with
    | none => simp [hr]
    | some r =>
      have hmem : r ∈ Reference.ofInterpolation raw := by simp [Reference.ofInterpolation, hr]
      simpa [hr] using h r (Reference.mem_ofText hpiece hblank hmem)

theorem substituteText_congr {s : List Char}
    (h : ∀ r ∈ Reference.ofText s, env.resolve r = env'.resolve r) :
    env.substituteText s = env'.substituteText s := by
  rw [substituteText, substituteText, whole_congr h, fillText_congr h]

mutual

/-- Environments that resolve the references of a value alike substitute alike. -/
theorem substitute_congr_resolve : (v : Value) →
    (∀ r ∈ v.allReferences, env.resolve r = env'.resolve r) → env.substitute v = env'.substitute v
  | .string _, h => substituteText_congr h
  | .list items, h => congrArg Value.list (substituteItems_congr items h)
  | .object members, h => congrArg Value.object (substituteMembers_congr members h)
  | .null, _ | .bool _, _ | .number _, _ => rfl

theorem substituteItems_congr : (items : List Value) →
    (∀ r ∈ Value.allReferencesOfItems items, env.resolve r = env'.resolve r) →
    env.substituteItems items = env'.substituteItems items
  | [], _ => rfl
  | item :: rest, h => by
    simp only [Value.allReferencesOfItems, List.mem_append] at h
    rw [substituteItems, substituteItems,
      substitute_congr_resolve item fun r hr => h r (.inl hr),
      substituteItems_congr rest fun r hr => h r (.inr hr)]

theorem substituteMembers_congr : (members : List (String × Value)) →
    (∀ r ∈ Value.allReferencesOfMembers members, env.resolve r = env'.resolve r) →
    env.substituteMembers members = env'.substituteMembers members
  | [], _ => rfl
  | (key, value) :: rest, h => by
    simp only [Value.allReferencesOfMembers, List.mem_append] at h
    rw [substituteMembers, substituteMembers,
      substitute_congr_resolve value fun r hr => h r (.inl hr),
      substituteMembers_congr rest fun r hr => h r (.inr hr)]

end

/-- Environments that agree on the names that a value depends on substitute alike. -/
theorem substitute_congr {v : Value} (h : ∀ name ∈ v.localNames, env name = env' name) :
    env.substitute v = env'.substitute v := by
  apply substitute_congr_resolve
  intro r hr
  cases r with
  | localValue name path =>
    simp only [resolve, h name (Value.mem_localNames.2 ⟨path, hr⟩)]
  | external written => rfl

end Environment

/-! ### Entries -/

namespace LocalEntry

/-- Entries agree at a name if none has it, or if all have it with the same value, evaluated in all
or in none. -/
def AgreeAt (entries entries' : Keyed LocalEntry) (name : String) : Prop :=
  (entries.lookup name = none ∧ entries'.lookup name = none) ∨
    ∃ entry entry', entries.lookup name = some entry ∧ entries'.lookup name = some entry' ∧
      entry.evaluated = entry'.evaluated ∧ entry.value = entry'.value

variable {entries entries' : Keyed LocalEntry} {name : String}

theorem environment_eq_of_agreeAt (h : AgreeAt entries entries' name) :
    environment entries name = environment entries' name := by
  unfold environment
  rcases h with ⟨hnone, hnone'⟩ | ⟨entry, entry', hlookup, hlookup', hevaluated, hvalue⟩
  · rw [hnone, hnone']
  · rw [hlookup, hlookup', Option.filter_some, Option.filter_some, hevaluated]
    split
    · rw [Option.map_some, Option.map_some, hvalue]
    · rfl

/-- Entries that agree at the names that a value depends on substitute alike. What is written under
any other name does not show in the value. -/
theorem substitute_eq_of_agreeAt {v : Value}
    (h : ∀ name ∈ v.localNames, AgreeAt entries entries' name) :
    (environment entries).substitute v = (environment entries').substitute v ∧
      ∀ (other : String) (entry : LocalEntry), other ∉ v.localNames →
        (environment (Keyed.insert entries other entry)).substitute v =
          (environment entries').substitute v := by
  have hsame : (environment entries).substitute v = (environment entries').substitute v :=
    Environment.substitute_congr fun name hname => environment_eq_of_agreeAt (h name hname)
  refine ⟨hsame, fun other entry hother => ?_⟩
  rw [← hsame]
  apply Environment.substitute_congr
  intro name hname
  have hne : name ≠ other := fun heq => hother (heq ▸ hname)
  unfold environment
  rw [Keyed.lookup_insert_of_ne entries entry hne]

/-- Entries in another order, with another expression and another value of a name that is not
referred to; one of the names referred to is in neither. -/
theorem substitute_unreferred :
    (∀ name ∈ (Value.string "${upper(local.env)}-${local.tags.zone}").localNames,
      AgreeAt [("env", ⟨"env", .string "prod", .string "prod", true⟩),
          ("key", ⟨"key", .string "a", .string "a", true⟩)]
        [("key", ⟨"key", .string "b", .string "b", true⟩),
          ("env", ⟨"env", .null, .string "prod", true⟩)] name) ∧
    (environment [("env", ⟨"env", .string "prod", .string "prod", true⟩),
        ("key", ⟨"key", .string "a", .string "a", true⟩)]).substitute
        (.string "${upper(local.env)}-${local.tags.zone}") =
      (environment [("key", ⟨"key", .string "b", .string "b", true⟩),
        ("env", ⟨"env", .null, .string "prod", true⟩)]).substitute
        (.string "${upper(local.env)}-${local.tags.zone}") := by
  have hagree : ∀ name ∈ (Value.string "${upper(local.env)}-${local.tags.zone}").localNames,
      AgreeAt [("env", ⟨"env", .string "prod", .string "prod", true⟩),
          ("key", ⟨"key", .string "a", .string "a", true⟩)]
        [("key", ⟨"key", .string "b", .string "b", true⟩),
          ("env", ⟨"env", .null, .string "prod", true⟩)] name := by
    have hnames : (Value.string "${upper(local.env)}-${local.tags.zone}").localNames =
      ["env", "tags"] := by decide +kernel
    rw [hnames]
    intro name hname
    simp only [List.mem_cons, List.not_mem_nil, or_false] at hname
    rcases hname with rfl | rfl
    · exact .inr ⟨_, _, rfl, rfl, rfl, rfl⟩
    · exact .inl ⟨rfl, rfl⟩
  exact ⟨hagree, (substitute_eq_of_agreeAt hagree).1⟩

end LocalEntry

end InfraConfig
