import InfraConfig.Value.Basic
import Mathlib.Data.List.Basic

/-! Paths into a value. A value has parts, each at a step that says where it stands; a path is a
list of steps, and of two paths the one that a document meets first precedes the other: that to an
object or a list before those below it (`Precedes`). `keyPaths` finds the keys of a value that are
wanted, and a list of paths is such a finding exactly if it is in order and has all of them and no
others (`FindsKeys`, `findsKeys_keyPaths`). -/
namespace InfraConfig.Value

/-! ### Parts -/

/-- A step into a value: to the member of an object, under its key, or to the item of a list. -/
inductive Step where
  | member (position : Nat) (key : String)
  | item (position : Nat)
deriving DecidableEq, Repr

namespace Step

def position : Step → Nat
  | member position _ | item position => position

/-- How a step is written. -/
def text : Step → String
  | member _ key => key
  | item position => toString position

/-- A step to a member whose key is wanted. -/
def isWanted (wanted : String → Bool) : Step → Bool
  | member _ key => wanted key
  | item _ => false

end Step

/-- The members or items of a value, in the order of the document. -/
def parts : Value → List (Step × Value)
  | .object members =>
    members.zipIdx.map fun ((key, value), position) => (.member position key, value)
  | .list items => items.zipIdx.map fun (item, position) => (.item position, item)
  | .null | .bool _ | .number _ | .string _ => []

/-- A path that leads from a value to one in it. -/
inductive Leads : Value → List Step → Value → Prop where
  | here (v : Value) : Leads v [] v
  | into {v inner target : Value} {step : Step} {path : List Step}
      (part : (step, inner) ∈ v.parts) (rest : Leads inner path target) :
      Leads v (step :: path) target

theorem sizeOf_lt_of_mem_parts {v : Value} {part : Step × Value} (h : part ∈ v.parts) :
    sizeOf part.2 < sizeOf v := by
  cases v with
  | object members =>
    obtain ⟨⟨⟨key, value⟩, position⟩, hmem, rfl⟩ := List.mem_map.1 h
    have hmember := List.sizeOf_lt_of_mem (List.fst_mem_of_mem_zipIdx hmem)
    simp only [Prod.mk.sizeOf_spec] at hmember
    simp only [object.sizeOf_spec]
    omega
  | list items =>
    obtain ⟨⟨item, position⟩, hmem, rfl⟩ := List.mem_map.1 h
    have hitem : sizeOf item < sizeOf items :=
      List.sizeOf_lt_of_mem (List.fst_mem_of_mem_zipIdx hmem)
    simp only [list.sizeOf_spec]
    omega
  | _ => cases h

/-- The positions of parts ascend. -/
theorem pairwise_position_parts (v : Value) :
    v.parts.Pairwise fun part later => part.1.position < later.1.position := by
  have hpositions {α : Type} (xs : List α) : xs.zipIdx.Pairwise fun x y => x.2 < y.2 := by
    rw [← List.pairwise_map (f := Prod.snd), List.zipIdx_map_snd]
    exact List.pairwise_lt_range'
  cases v with
  | object members => exact List.pairwise_map.2 (hpositions members)
  | list items => exact List.pairwise_map.2 (hpositions items)
  | _ => exact List.Pairwise.nil

/-! ### The order of a document -/

/-- One path comes before another: at the first step that differs, or because it ends there. -/
def Precedes (path later : List Step) : Prop := path.map Step.position < later.map Step.position

theorem Precedes.cons {path later : List Step} (h : Precedes path later) (step : Step) :
    Precedes (step :: path) (step :: later) :=
  List.cons_lt_cons_iff.2 (.inr ⟨rfl, h⟩)

theorem precedes_of_position_lt {step later : Step} (h : step.position < later.position)
    (path path' : List Step) : Precedes (step :: path) (later :: path') :=
  List.cons_lt_cons_iff.2 (.inl h)

theorem precedes_below (step : Step) {path : List Step} (h : path ≠ []) :
    Precedes [step] (step :: path) := by
  obtain ⟨next, rest, rfl⟩ := List.exists_cons_of_ne_nil h
  exact List.cons_lt_cons_iff.2 (.inr ⟨rfl, List.nil_lt_cons _ _⟩)

/-! ### The keys that are wanted -/

/-- A path leads from a value to a key that is wanted. -/
def HasKey (v : Value) (wanted : String → Bool) (path : List Step) : Prop :=
  ∃ front position key inner,
    path = front ++ [.member position key] ∧ v.Leads path inner ∧ wanted key = true

/-- The paths to all keys of a value that are wanted, each once, in the order of the document. -/
structure FindsKeys (v : Value) (wanted : String → Bool) (found : List (List Step)) : Prop where
  inOrder : found.Pairwise Precedes
  exactly : ∀ path, path ∈ found ↔ v.HasKey wanted path

/-! ### Finding them -/

section Part
variable {wanted : String → Bool} {step : Step} {below : List (List Step)} {path : List Step}

/-- The paths through a part: to it, if its key is wanted, and to what is wanted below it. -/
def pathsThrough (wanted : String → Bool) (step : Step) (below : List (List Step)) :
    List (List Step) :=
  (if step.isWanted wanted then [[step]] else []) ++ below.map (step :: ·)

theorem mem_pathsThrough : path ∈ pathsThrough wanted step below ↔
    ∃ rest, path = step :: rest ∧ (rest = [] ∧ step.isWanted wanted = true ∨ rest ∈ below) := by
  rw [pathsThrough, List.mem_append, List.mem_ite_nil_right, List.mem_singleton, List.mem_map]
  constructor
  · rintro (⟨hwanted, rfl⟩ | ⟨rest, hrest, rfl⟩)
    · exact ⟨[], rfl, .inl ⟨rfl, hwanted⟩⟩
    · exact ⟨rest, rfl, .inr hrest⟩
  · rintro ⟨rest, rfl, ⟨rfl, hwanted⟩ | hrest⟩
    · exact .inl ⟨hwanted, rfl⟩
    · exact .inr ⟨rest, hrest, rfl⟩

theorem pairwise_pathsThrough (h : below.Pairwise Precedes) (hne : ∀ path ∈ below, path ≠ []) :
    (pathsThrough wanted step below).Pairwise Precedes := by
  have hbelow : (below.map (step :: ·)).Pairwise Precedes :=
    List.pairwise_map.2 (h.imp fun hpath => hpath.cons step)
  rw [pathsThrough]
  split
  · refine List.pairwise_cons.2 ⟨fun path hpath => ?_, hbelow⟩
    obtain ⟨rest, hrest, rfl⟩ := List.mem_map.1 hpath
    exact precedes_below step (hne rest hrest)
  · exact hbelow

end Part

variable (wanted : String → Bool)

/-- Goes through a value and finds the keys that are wanted. -/
def keyPaths (v : Value) : List (List Step) :=
  v.parts.attach.flatMap fun ⟨part, _⟩ => pathsThrough wanted part.1 (keyPaths part.2)
termination_by sizeOf v
decreasing_by exact sizeOf_lt_of_mem_parts ‹_›

theorem keyPaths_eq (v : Value) :
    v.keyPaths wanted =
      v.parts.flatMap fun part => pathsThrough wanted part.1 (part.2.keyPaths wanted) := by
  rw [keyPaths]
  simp only [List.flatMap_subtype, List.unattach_attach]

variable {wanted} {v : Value} {path : List Step}

theorem mem_keyPaths_cons {step : Step} :
    step :: path ∈ v.keyPaths wanted ↔ ∃ inner, (step, inner) ∈ v.parts ∧
      (path = [] ∧ step.isWanted wanted = true ∨ path ∈ inner.keyPaths wanted) := by
  rw [keyPaths_eq, List.mem_flatMap]
  constructor
  · rintro ⟨⟨_, inner⟩, hpart, hmem⟩
    obtain ⟨rest, heq, hrest⟩ := mem_pathsThrough.1 hmem
    cases heq
    exact ⟨inner, hpart, hrest⟩
  · rintro ⟨inner, hpart, hrest⟩
    exact ⟨(step, inner), hpart, mem_pathsThrough.2 ⟨path, rfl, hrest⟩⟩

theorem ne_nil_of_mem_keyPaths (h : path ∈ v.keyPaths wanted) : path ≠ [] := by
  rw [keyPaths_eq, List.mem_flatMap] at h
  obtain ⟨part, -, hmem⟩ := h
  obtain ⟨rest, rfl, -⟩ := mem_pathsThrough.1 hmem
  exact List.cons_ne_nil _ _

theorem not_hasKey_nil : ¬v.HasKey wanted [] := by
  rintro ⟨front, position, key, inner, hpath, -⟩
  simp at hpath

theorem hasKey_cons {step : Step} :
    v.HasKey wanted (step :: path) ↔ ∃ inner, (step, inner) ∈ v.parts ∧
      (path = [] ∧ step.isWanted wanted = true ∨ inner.HasKey wanted path) := by
  constructor
  · rintro ⟨front, position, key, target, hpath, hleads, hwanted⟩
    cases hleads with
    | into part rest =>
      refine ⟨_, part, ?_⟩
      cases front with
      | nil =>
        cases hpath
        exact .inl ⟨rfl, hwanted⟩
      | cons first front =>
        cases hpath
        exact .inr ⟨front, position, key, target, rfl, rest, hwanted⟩
  · rintro ⟨inner, part, ⟨rfl, hwanted⟩ | ⟨front, position, key, target, rfl, rest, hwanted⟩⟩
    · cases step with
      | member position key =>
        exact ⟨[], position, key, inner, rfl, .into part (.here inner), hwanted⟩
      | item position => cases hwanted
    · exact ⟨step :: front, position, key, target, rfl, .into part rest, hwanted⟩

/-- What is found leads to a key that is wanted, and every such path is found. -/
theorem mem_keyPaths : path ∈ v.keyPaths wanted ↔ v.HasKey wanted path := by
  induction path generalizing v with
  | nil => exact iff_of_false (fun h => ne_nil_of_mem_keyPaths h rfl) not_hasKey_nil
  | cons step path ih => simp only [mem_keyPaths_cons, hasKey_cons, ih]

variable (wanted)

/-- The paths are found in the order of the document: those through different parts differ in the
position that they begin with. -/
theorem pairwise_keyPaths (v : Value) : (v.keyPaths wanted).Pairwise Precedes := by
  induction v using keyPaths.induct with
  | case1 v ih =>
    rw [keyPaths_eq, List.pairwise_flatMap]
    constructor
    · intro part hpart
      exact pairwise_pathsThrough (ih part hpart) fun _ => ne_nil_of_mem_keyPaths
    · refine v.pairwise_position_parts.imp fun hlt path hpath later hlater => ?_
      obtain ⟨below, rfl, -⟩ := mem_pathsThrough.1 hpath
      obtain ⟨below', rfl, -⟩ := mem_pathsThrough.1 hlater
      exact precedes_of_position_lt hlt below below'

/-- The keys of a value that are wanted are found, and nothing else. -/
theorem findsKeys_keyPaths (v : Value) : v.FindsKeys wanted (v.keyPaths wanted) :=
  ⟨pairwise_keyPaths wanted v, fun _ => mem_keyPaths⟩

end InfraConfig.Value
