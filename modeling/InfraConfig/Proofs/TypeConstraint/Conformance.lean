import InfraConfig.TypeConstraint.Check

/-! What it is for a value to be of a type (`Conforms`), and for a mismatch to tell where it is not
(`Located`). A part of a value is asked for a type of its own by the type of the whole; `Leads`
follows keys and indices through both at once. In a value of a type every part is of the type that
is asked of it (`Conforms.of_leads`), so a value with a located mismatch is not of the type
(`Located.not_conforms`). -/
namespace InfraConfig

/-- A primitive type accepts the values of its kind. -/
theorem Primitive.accepts_iff {p : Primitive} {value : Value} :
    p.accepts value = true ↔ value.kind = p.name := by
  cases p <;> cases value <;> simp [Primitive.accepts, Value.kind, Primitive.name]

namespace TypeConstraint

/-- Whether a value is of a type. -/
def Conforms : TypeConstraint → Value → Prop
  | any, _ => True
  | primitive p, value => value.kind = p.name
  | list item, value | set item, value =>
    ∃ items, value = .list items ∧ ∀ x ∈ items, item.Conforms x
  | map item, value =>
    ∃ members, value = .object members ∧ ∀ key x, (key, x) ∈ members → item.Conforms x
  | keyedMap fields items, value =>
    ∃ members, value = .object members ∧ ∀ key x, (key, x) ∈ members →
      (∀ type, fields.lookup key = some type → type.Conforms x) ∧
        (key ∉ Keyed.keys fields → items.Conforms x)
  | object fields, value =>
    ∃ members, value = .object members ∧
      -- What has to be there is there.
      (∀ name field, (name, field) ∈ fields → field.optional = false → field.type ≠ any →
        name ∈ Keyed.keys members) ∧
      (∀ name field, (name, field) ∈ fields → ∀ x, members.lookup name = some x →
        field.type.Conforms x) ∧
      -- An attribute of any type opens the object to others.
      ((∃ name field, (name, field) ∈ fields ∧ field.type = any) ∨
        ∀ key ∈ Keyed.keys members, key ∈ Keyed.keys fields)
termination_by t => sizeOf t
decreasing_by
  · decreasing_tactic
  · decreasing_tactic
  · decreasing_tactic
  · exact sizeOf_lt_keyedMap (Keyed.mem_of_lookup ‹_›) items
  · decreasing_tactic
  · exact sizeOf_lt_object ‹_ ∈ fields›

section Composite
variable {t item : TypeConstraint} {members : List (String × Value)}

theorem conforms_list_iff {items : List Value} (h : t = list item ∨ t = set item) :
    t.Conforms (.list items) ↔ ∀ x ∈ items, item.Conforms x := by
  rcases h with rfl | rfl <;> simp [Conforms]

theorem conforms_map_iff :
    (map item).Conforms (.object members) ↔ ∀ key x, (key, x) ∈ members → item.Conforms x := by
  simp [Conforms]

theorem conforms_keyedMap_iff {fields : List (String × TypeConstraint)} :
    (keyedMap fields item).Conforms (.object members) ↔ ∀ key x, (key, x) ∈ members →
      (∀ type, fields.lookup key = some type → type.Conforms x) ∧
        (key ∉ Keyed.keys fields → item.Conforms x) := by
  simp [Conforms]

theorem conforms_object_iff {fields : List (String × Field TypeConstraint)} :
    (object fields).Conforms (.object members) ↔
      (∀ name field, (name, field) ∈ fields → field.optional = false → field.type ≠ any →
        name ∈ Keyed.keys members) ∧
      (∀ name field, (name, field) ∈ fields → ∀ x, members.lookup name = some x →
        field.type.Conforms x) ∧
      ((∃ name field, (name, field) ∈ fields ∧ field.type = any) ∨
        ∀ key ∈ Keyed.keys members, key ∈ Keyed.keys fields) := by
  simp only [Conforms, Value.object.injEq]
  constructor
  · rintro ⟨_, rfl, h⟩
    exact h
  · exact fun h => ⟨members, rfl, h⟩

end Composite

/-! ### Parts -/

/-- A part of a value, by its key or index, with the type that is asked of it. -/
inductive Part : TypeConstraint → Value → String → TypeConstraint → Value → Prop where
  | item {t type : TypeConstraint} {items : List Value} {index : Nat} {x : Value}
      (htype : t = list type ∨ t = set type) (h : items[index]? = some x) :
      Part t (.list items) (toString index) type x
  | value {type : TypeConstraint} {members : List (String × Value)} {key : String} {x : Value}
      (h : (key, x) ∈ members) : Part (map type) (.object members) key type x
  | declaredKey {fields : List (String × TypeConstraint)} {items type : TypeConstraint}
      {members : List (String × Value)} {key : String} {x : Value} (h : (key, x) ∈ members)
      (hkey : fields.lookup key = some type) :
      Part (keyedMap fields items) (.object members) key type x
  | otherKey {fields : List (String × TypeConstraint)} {items : TypeConstraint}
      {members : List (String × Value)} {key : String} {x : Value} (h : (key, x) ∈ members)
      (hkey : key ∉ Keyed.keys fields) : Part (keyedMap fields items) (.object members) key items x
  | field {fields : List (String × Field TypeConstraint)} {members : List (String × Value)}
      {name : String} {field : Field TypeConstraint} {x : Value} (hfield : (name, field) ∈ fields)
      (h : members.lookup name = some x) : Part (object fields) (.object members) name field.type x

/-- A path leads from a value to a part of it, or a part of a part, with the type asked of it. -/
inductive Leads : TypeConstraint → Value → List String → TypeConstraint → Value → Prop where
  | here (t : TypeConstraint) (value : Value) : Leads t value [] t value
  | step {t t' type : TypeConstraint} {value value' x : Value} {segment : String}
      {path : List String} (first : Part t value segment t' value')
      (rest : Leads t' value' path type x) : Leads t value (segment :: path) type x

theorem Conforms.of_part {t type : TypeConstraint} {value x : Value} {segment : String}
    (h : t.Conforms value) (hpart : Part t value segment type x) : type.Conforms x := by
  cases hpart with
  | item htype hx => exact (conforms_list_iff htype).1 h x (List.mem_of_getElem? hx)
  | value hx => exact conforms_map_iff.1 h segment x hx
  | declaredKey hx hkey => exact (conforms_keyedMap_iff.1 h segment x hx).1 type hkey
  | otherKey hx hkey => exact (conforms_keyedMap_iff.1 h segment x hx).2 hkey
  | field hfield hx => exact (conforms_object_iff.1 h).2.1 segment _ hfield x hx

/-- In a value of a type every path leads to a value of the type asked of it. -/
theorem Conforms.of_leads {t type : TypeConstraint} {value x : Value} {path : List String}
    (h : t.Conforms value) (hleads : Leads t value path type x) : type.Conforms x := by
  induction hleads with
  | here => exact h
  | step first _ ih => exact ih (h.of_part first)

/-! ### Places of mismatches -/

/-- A mismatch tells where a value is not of a type. -/
inductive Located (t : TypeConstraint) (value : Value) (m : Mismatch) : Prop where
  /-- The path leads to a value that is not of the type asked of it; its kind and the type are
  told. -/
  | wrongKind {type : TypeConstraint} {part : Value} (leads : Leads t value m.path type part)
      (refused : ¬ type.Conforms part) (expected : m.expected = type.text)
      (actual : m.actual = part.kind)
  /-- The path leads to an object and on to an attribute that it lacks and has to have. -/
  | missing {front : List String} {fields : List (String × Field TypeConstraint)}
      {members : List (String × Value)} {name : String} {field : Field TypeConstraint}
      (leads : Leads t value front (object fields) (.object members))
      (path : m.path = front ++ [name]) (declared : (name, field) ∈ fields)
      (required : field.optional = false ∧ field.type ≠ any) (absent : name ∉ Keyed.keys members)
      (expected : m.expected = "an attribute") (actual : m.actual = "nothing")
  /-- The path leads to an object and on to an attribute that it has and may not have. -/
  | undeclared {front : List String} {fields : List (String × Field TypeConstraint)}
      {members : List (String × Value)} {key : String}
      (leads : Leads t value front (object fields) (.object members))
      (path : m.path = front ++ [key]) (present : key ∈ Keyed.keys members)
      (undeclared : key ∉ Keyed.keys fields)
      (closed : ∀ name field, (name, field) ∈ fields → field.type ≠ any)
      (expected : m.expected = "no attribute") (actual : m.actual = "an undeclared attribute")

variable {t type : TypeConstraint} {value x : Value} {m : Mismatch}

/-- A value with a located mismatch is not of the type. -/
theorem Located.not_conforms (h : Located t value m) : ¬ t.Conforms value := by
  intro hconforms
  cases h with
  | wrongKind leads refused => exact refused (hconforms.of_leads leads)
  | missing leads _ declared required absent =>
    obtain ⟨hrequired, _⟩ := conforms_object_iff.1 (hconforms.of_leads leads)
    exact absent (hrequired _ _ declared required.1 required.2)
  | undeclared leads _ present undeclared closed =>
    obtain ⟨_, _, ⟨name, field, hfield, hany⟩ | hall⟩ :=
      conforms_object_iff.1 (hconforms.of_leads leads)
    · exact closed name field hfield hany
    · exact undeclared (hall _ present)

end TypeConstraint

/-- The mismatch as it is seen from further outside. -/
def Mismatch.under (front : List String) (m : Mismatch) : Mismatch :=
  { m with path := front ++ m.path }

@[simp] theorem Mismatch.under_nil (m : Mismatch) : m.under [] = m := rfl

theorem Mismatch.under_append (front path : List String) (m : Mismatch) :
    m.under (front ++ path) = (m.under path).under front := by
  simp [Mismatch.under]

/-- A mismatch of a part is a mismatch of the whole. -/
theorem TypeConstraint.Located.of_part {t type : TypeConstraint} {value x : Value}
    {segment : String} {m : Mismatch} (hpart : Part t value segment type x)
    (h : Located type x m) : Located t value (m.under [segment]) := by
  cases h with
  | wrongKind leads refused expected actual =>
    exact .wrongKind (.step hpart leads) refused expected actual
  | missing leads path declared required absent expected actual =>
    have hpath : (m.under [segment]).path = (segment :: _) ++ [_] := congrArg (segment :: ·) path
    exact .missing (.step hpart leads) hpath declared required absent expected actual
  | undeclared leads path present undeclared closed expected actual =>
    have hpath : (m.under [segment]).path = (segment :: _) ++ [_] := congrArg (segment :: ·) path
    exact .undeclared (.step hpart leads) hpath present undeclared closed expected actual

end InfraConfig
