import InfraConfig.Keyed

/-! Type constraints of variables. A constraint is a primitive type, a collection, an object with
attributes of which some may be absent, or `any`, which accepts everything. A keyed map is a map
some of whose keys are declared with types of their own. -/
namespace InfraConfig

/-- A primitive type. -/
inductive Primitive where
  | string
  | number
  | bool
deriving DecidableEq, Repr

/-- An attribute of an object type. -/
structure Field (τ : Type) where
  type : τ
  /-- The attribute may be absent. -/
  optional : Bool
deriving DecidableEq, Repr

/-- A type constraint. -/
inductive TypeConstraint where
  | any
  | primitive (p : Primitive)
  | list (item : TypeConstraint)
  | set (item : TypeConstraint)
  | map (item : TypeConstraint)
  /-- A map with declared keys; the other keys have values of type `items`. -/
  | keyedMap (fields : List (String × TypeConstraint)) (items : TypeConstraint)
  | object (fields : List (String × Field TypeConstraint))
deriving Repr, Inhabited

namespace TypeConstraint

def isAny : TypeConstraint → Bool
  | any => true
  | _ => false

theorem isAny_iff {t : TypeConstraint} : t.isAny = true ↔ t = any := by
  cases t <;> simp [isAny]

mutual

/-- The nesting depth; a primitive type and `any` have depth one. -/
def depth : TypeConstraint → Nat
  | any | primitive _ => 1
  | list item | set item | map item => 1 + item.depth
  | keyedMap fields items => 1 + max (depthOfFields fields) items.depth
  | object fields => 1 + depthOfAttributes fields

/-- The greatest depth of the declared keys of a map. -/
def depthOfFields : List (String × TypeConstraint) → Nat
  | [] => 0
  | (_, type) :: rest => max type.depth (depthOfFields rest)

/-- The greatest depth of the attributes of an object. -/
def depthOfAttributes : List (String × Field TypeConstraint) → Nat
  | [] => 0
  | (_, ⟨type, _⟩) :: rest => max type.depth (depthOfAttributes rest)

end

mutual

def decEq : (a b : TypeConstraint) → Decidable (a = b)
  | .any, .any => isTrue rfl
  | .primitive p, .primitive q =>
    if h : p = q then isTrue (h ▸ rfl) else isFalse fun e => h (primitive.inj e)
  | .list a, .list b =>
    match decEq a b with
    | isTrue h => isTrue (h ▸ rfl)
    | isFalse h => isFalse fun e => h (list.inj e)
  | .set a, .set b =>
    match decEq a b with
    | isTrue h => isTrue (h ▸ rfl)
    | isFalse h => isFalse fun e => h (set.inj e)
  | .map a, .map b =>
    match decEq a b with
    | isTrue h => isTrue (h ▸ rfl)
    | isFalse h => isFalse fun e => h (map.inj e)
  | .keyedMap f a, .keyedMap g b =>
    match decEqFields f g, decEq a b with
    | isTrue h, isTrue h' => isTrue (h ▸ h' ▸ rfl)
    | isFalse h, _ => isFalse fun e => h (keyedMap.inj e).1
    | _, isFalse h => isFalse fun e => h (keyedMap.inj e).2
  | .object f, .object g =>
    match decEqAttributes f g with
    | isTrue h => isTrue (h ▸ rfl)
    | isFalse h => isFalse fun e => h (object.inj e)
  | .any, .primitive _ | .any, .list _ | .any, .set _ | .any, .map _ | .any, .keyedMap _ _
  | .any, .object _ | .primitive _, .any | .primitive _, .list _ | .primitive _, .set _
  | .primitive _, .map _ | .primitive _, .keyedMap _ _ | .primitive _, .object _ | .list _, .any
  | .list _, .primitive _ | .list _, .set _ | .list _, .map _ | .list _, .keyedMap _ _
  | .list _, .object _ | .set _, .any | .set _, .primitive _ | .set _, .list _ | .set _, .map _
  | .set _, .keyedMap _ _ | .set _, .object _ | .map _, .any | .map _, .primitive _
  | .map _, .list _ | .map _, .set _ | .map _, .keyedMap _ _ | .map _, .object _
  | .keyedMap _ _, .any | .keyedMap _ _, .primitive _ | .keyedMap _ _, .list _
  | .keyedMap _ _, .set _ | .keyedMap _ _, .map _ | .keyedMap _ _, .object _ | .object _, .any
  | .object _, .primitive _ | .object _, .list _ | .object _, .set _ | .object _, .map _
  | .object _, .keyedMap _ _ => isFalse nofun

def decEqFields : (a b : List (String × TypeConstraint)) → Decidable (a = b)
  | [], [] => isTrue rfl
  | [], _ :: _ | _ :: _, [] => isFalse nofun
  | (k, x) :: a, (l, y) :: b =>
    if hk : k = l then
      match decEq x y, decEqFields a b with
      | isTrue h, isTrue h' => isTrue (hk ▸ h ▸ h' ▸ rfl)
      | isFalse h, _ => isFalse fun e => h (Prod.mk.inj (List.cons.inj e).1).2
      | _, isFalse h => isFalse fun e => h (List.cons.inj e).2
    else isFalse fun e => hk (Prod.mk.inj (List.cons.inj e).1).1

def decEqAttributes : (a b : List (String × Field TypeConstraint)) → Decidable (a = b)
  | [], [] => isTrue rfl
  | [], _ :: _ | _ :: _, [] => isFalse nofun
  | (k, ⟨x, o⟩) :: a, (l, ⟨y, p⟩) :: b =>
    if hk : k = l ∧ o = p then
      match decEq x y, decEqAttributes a b with
      | isTrue h, isTrue h' => isTrue (hk.1 ▸ hk.2 ▸ h ▸ h' ▸ rfl)
      | isFalse h, _ =>
        isFalse fun e => h (Field.mk.inj (Prod.mk.inj (List.cons.inj e).1).2).1
      | _, isFalse h => isFalse fun e => h (List.cons.inj e).2
    else isFalse fun e =>
      have e' := Prod.mk.inj (List.cons.inj e).1
      hk ⟨e'.1, (Field.mk.inj e'.2).2⟩

end

instance : DecidableEq TypeConstraint := decEq

theorem depth_pos (t : TypeConstraint) : 0 < t.depth := by
  cases t <;> unfold depth <;> omega

theorem depthOfFields_le_iff {fields : List (String × TypeConstraint)} {levels : Nat} :
    depthOfFields fields ≤ levels ↔ ∀ name type, (name, type) ∈ fields → type.depth ≤ levels := by
  induction fields with
  | nil => simp [depthOfFields]
  | cons field rest ih =>
    obtain ⟨name, type⟩ := field
    rw [depthOfFields, Nat.max_le, ih]
    simp only [List.mem_cons, Prod.mk.injEq]
    constructor
    · rintro ⟨htype, hrest⟩ other type' (⟨rfl, rfl⟩ | hmem)
      · exact htype
      · exact hrest other type' hmem
    · intro h
      exact ⟨h name type (.inl ⟨rfl, rfl⟩), fun other type' hmem => h other type' (.inr hmem)⟩

theorem depthOfAttributes_le_iff {fields : List (String × Field TypeConstraint)} {levels : Nat} :
    depthOfAttributes fields ≤ levels ↔
      ∀ name field, (name, field) ∈ fields → field.type.depth ≤ levels := by
  induction fields with
  | nil => simp [depthOfAttributes]
  | cons field rest ih =>
    obtain ⟨name, type, optional⟩ := field
    rw [depthOfAttributes, Nat.max_le, ih]
    simp only [List.mem_cons, Prod.mk.injEq]
    constructor
    · rintro ⟨htype, hrest⟩ other field (⟨rfl, rfl⟩ | hmem)
      · exact htype
      · exact hrest other field hmem
    · intro h
      exact ⟨h name ⟨type, optional⟩ (.inl ⟨rfl, rfl⟩),
        fun other field hmem => h other field (.inr hmem)⟩

/-! ### Types in a type -/

theorem sizeOf_lt_keyedMap {fields : List (String × TypeConstraint)} {name : String}
    {type : TypeConstraint} (h : (name, type) ∈ fields) (items : TypeConstraint) :
    sizeOf type < sizeOf (keyedMap fields items) := by
  have hlt := List.sizeOf_lt_of_mem h
  rw [Prod.mk.sizeOf_spec] at hlt
  rw [keyedMap.sizeOf_spec]
  omega

theorem sizeOf_lt_object {fields : List (String × Field TypeConstraint)} {name : String}
    {field : Field TypeConstraint} (h : (name, field) ∈ fields) :
    sizeOf field.type < sizeOf (object fields) := by
  have hlt := List.sizeOf_lt_of_mem h
  obtain ⟨type, optional⟩ := field
  rw [Prod.mk.sizeOf_spec, Field.mk.sizeOf_spec] at hlt
  rw [object.sizeOf_spec]
  show sizeOf type < _
  omega

/-- Induction over a type and the types in it. -/
@[elab_as_elim]
theorem induction {P : TypeConstraint → Prop} (any : P any) (primitive : ∀ p, P (primitive p))
    (list : ∀ item, P item → P (list item)) (set : ∀ item, P item → P (set item))
    (map : ∀ item, P item → P (map item))
    (keyedMap : ∀ fields items, (∀ name type, (name, type) ∈ fields → P type) → P items →
      P (keyedMap fields items))
    (object : ∀ fields, (∀ name field, (name, field) ∈ fields → P field.type) → P (object fields)) :
    (t : TypeConstraint) → P t
  | .any => any
  | .primitive p => primitive p
  | .list item => list item (induction any primitive list set map keyedMap object item)
  | .set item => set item (induction any primitive list set map keyedMap object item)
  | .map item => map item (induction any primitive list set map keyedMap object item)
  | .keyedMap fields items =>
    keyedMap fields items
      (fun _ type _ => induction any primitive list set map keyedMap object type)
      (induction any primitive list set map keyedMap object items)
  | .object fields =>
    object fields fun _ field _ => induction any primitive list set map keyedMap object field.type
termination_by t => sizeOf t
decreasing_by
  · decreasing_tactic
  · decreasing_tactic
  · decreasing_tactic
  · exact sizeOf_lt_keyedMap ‹_ ∈ _› items
  · decreasing_tactic
  · exact sizeOf_lt_object ‹_ ∈ _›

end TypeConstraint

end InfraConfig
