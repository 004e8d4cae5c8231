import InfraConfig.Proofs.TypeConstraint.Writing

/-! How object forms are read, and that the object form of a type is read as that type. One
equation opens `ofForm?` (`ofForm?_members`), and one follows from it for every kind of type that a
form can name. A form is read through three of its members only (`ofForm?_congr`), so the mark of an
attribute that may be absent does not change the type of the attribute (`ofForm?_optionalForm`). -/
namespace InfraConfig.TypeConstraint

/-! ### Types without parts -/

theorem objectForm_any : any.objectForm = .string any.text := rfl

theorem objectForm_primitive (p : Primitive) :
    (primitive p).objectForm = .string (primitive p).text := by
  rw [objectForm, text, chars, String.ofList_toList]

theorem ofForm?_anyForm (levels : Nat) : ofForm? (levels + 1) any.objectForm = some any := by
  rw [objectForm_any, ofForm?_text (by simp [Expressible]), if_pos (by simp [depth])]

theorem ofForm?_primitiveForm (levels : Nat) (p : Primitive) :
    ofForm? (levels + 1) (primitive p).objectForm = some (primitive p) := by
  rw [objectForm_primitive, ofForm?_text (by simp [Expressible]), if_pos (by simp [depth])]

/-! ### Members -/

section Members
variable (levels : Nat) {members fields : List (String × Value)}

/-- The name of the type that an object form has. -/
def typeName? (members : List (String × Value)) : Option String :=
  (members.lookup "type").bind Value.string?

/-- The names of the types that an object form can have. -/
def typeNames : List String := ["string", "number", "bool", "list", "set", "map", "object"]

theorem typeName_cases (type : Option String) :
    (∃ p : Primitive, type = some p.name) ∨
      (∃ name make, (name, make) ∈ collections ∧ type = some name) ∨ type = some "object" ∨
      ∀ name ∈ typeNames, type ≠ some name := by
  by_cases h : ∃ name ∈ typeNames, type = some name
  · obtain ⟨name, hname, rfl⟩ := h
    simp only [typeNames, List.mem_cons, List.not_mem_nil, or_false] at hname
    rcases hname with rfl | rfl | rfl | rfl | rfl | rfl | rfl
    · exact .inl ⟨.string, rfl⟩
    · exact .inl ⟨.number, rfl⟩
    · exact .inl ⟨.bool, rfl⟩
    · exact .inr (.inl ⟨"list", list, by simp [collections], rfl⟩)
    · exact .inr (.inl ⟨"set", set, by simp [collections], rfl⟩)
    · exact .inr (.inl ⟨"map", map, by simp [collections], rfl⟩)
    · exact .inr (.inr (.inl rfl))
  · refine .inr (.inr (.inr fun name hname htype => h ⟨name, hname, htype⟩))

/-- The type of the elements of a collection in object form. -/
def itemsOf (members : List (String × Value)) : Option TypeConstraint :=
  match members.lookup "items" with
  | some form => ofForm? levels form
  | none => some any

/-- A declared key of a map with its type. -/
def declaredKey (field : String × Value) : Option (String × TypeConstraint) :=
  (ofForm? levels field.2).map (field.1, ·)

/-- An attribute of an object with its type. -/
def declaredAttribute (field : String × Value) : Option (String × Field TypeConstraint) :=
  (ofForm? levels field.2).map fun type => (field.1, ⟨type, isOptionalForm field.2⟩)

/-- How an object form is read, by the name of its type. -/
theorem ofForm?_members :
    ofForm? (levels + 1) (.object members) =
      match typeName? members with
      | some "string" => some (primitive .string)
      | some "number" => some (primitive .number)
      | some "bool" => some (primitive .bool)
      | some "list" => (itemsOf levels members).map list
      | some "set" => (itemsOf levels members).map set
      | some "map" =>
        match members.lookup "fields" with
        | some (.object fields) => do
          return keyedMap (← fields.mapM (declaredKey levels)) (← itemsOf levels members)
        | _ => (itemsOf levels members).map map
      | some "object" =>
        match members.lookup "fields" with
        | some (.object fields) => (fields.mapM (declaredAttribute levels)).map object
        | _ => some any
      | _ => some any :=
  rfl

theorem ofForm?_primitive {p : Primitive} (h : typeName? members = some p.name) :
    ofForm? (levels + 1) (.object members) = some (primitive p) := by
  rw [ofForm?_members, h]
  cases p <;> rfl

theorem ofForm?_collection {name : String} {make : TypeConstraint → TypeConstraint}
    (known : (name, make) ∈ collections) (h : typeName? members = some name)
    (hfields : name = "map" → ∀ fields, members.lookup "fields" ≠ some (.object fields)) :
    ofForm? (levels + 1) (.object members) = (itemsOf levels members).map make := by
  simp only [collections, List.mem_cons, Prod.mk.injEq, List.not_mem_nil, or_false] at known
  rw [ofForm?_members, h]
  rcases known with ⟨rfl, rfl⟩ | ⟨rfl, rfl⟩ | ⟨rfl, rfl⟩
  · rfl
  · rfl
  · have hnone := hfields rfl
    simp only

theorem ofForm?_keyedMap (h : typeName? members = some "map")
    (hfields : members.lookup "fields" = some (.object fields)) :
    ofForm? (levels + 1) (.object members) =
      (do return keyedMap (← fields.mapM (declaredKey levels)) (← itemsOf levels members)) := by
  rw [ofForm?_members, h, hfields]
  rfl

theorem ofForm?_object (h : typeName? members = some "object")
    (hfields : members.lookup "fields" = some (.object fields)) :
    ofForm? (levels + 1) (.object members) =
      (fields.mapM (declaredAttribute levels)).map object := by
  rw [ofForm?_members, h, hfields]
  rfl

theorem ofForm?_object_of_ne (h : typeName? members = some "object")
    (hfields : ∀ fields, members.lookup "fields" ≠ some (.object fields)) :
    ofForm? (levels + 1) (.object members) = some any := by
  rw [ofForm?_members, h]
  simp only

theorem ofForm?_unknown (h : ∀ name ∈ typeNames, typeName? members ≠ some name) :
    ofForm? (levels + 1) (.object members) = some any := by
  simp only [typeNames, List.forall_mem_cons] at h
  obtain ⟨hstring, hnumber, hbool, hlist, hset, hmap, hobject, -⟩ := h
  simp only [ofForm?_members]

theorem ofForm?_congr {members' : List (String × Value)}
    (h : ∀ key ∈ ["type", "items", "fields"], members.lookup key = members'.lookup key) :
    ofForm? levels (.object members) = ofForm? levels (.object members') := by
  cases levels with
  | zero => rfl
  | succ levels =>
    simp only [ofForm?_members, typeName?, itemsOf, h "type" (by decide), h "items" (by decide),
      h "fields" (by decide)]

end Members

/-! ### Attributes that may be absent -/

@[simp] theorem isOptionalForm_optionalForm (form : Value) :
    isOptionalForm (optionalForm form) = true := by
  cases form with
  | object members =>
    rw [optionalForm, isOptionalForm, Value.member?, Keyed.lookup_insert_self]
    rfl
  | _ => rfl

@[simp] theorem isOptionalForm_objectForm (t : TypeConstraint) :
    isOptionalForm t.objectForm = false := by
  cases t with
  | keyedMap fields items =>
    rw [objectForm]
    split <;> rfl
  | _ =>
    rw [objectForm]
    rfl

/-- The mark of an attribute that may be absent leaves its type as it is. -/
theorem ofForm?_optionalForm (levels : Nat) (t : TypeConstraint) :
    ofForm? levels (optionalForm t.objectForm) = ofForm? levels t.objectForm := by
  have hmark : ∀ members : List (String × Value),
      ofForm? levels (optionalForm (.object members)) = ofForm? levels (.object members) := by
    intro members
    apply ofForm?_congr
    intro key hkey
    apply Keyed.lookup_insert_of_ne
    rintro rfl
    exact absurd hkey (by decide)
  cases t with
  | any =>
    cases levels with
    | zero => rfl
    | succ levels =>
      rw [ofForm?_anyForm]
      exact ofForm?_unknown levels (by decide)
  | primitive p =>
    cases levels with
    | zero => rfl
    | succ levels =>
      rw [ofForm?_primitiveForm]
      rw [objectForm]
      exact ofForm?_primitive levels rfl
  | _ =>
    rw [objectForm]
    exact hmark _

/-! ### Round trip -/

theorem exists_level {levels : Nat} {t : TypeConstraint} (h : t.depth ≤ levels) :
    ∃ inner, levels = inner + 1 :=
  Nat.exists_eq_add_one.2 (Nat.lt_of_lt_of_le t.depth_pos h)

theorem mapM_fieldForms {levels : Nat} {fields : List (String × TypeConstraint)}
    (h : ∀ name type, (name, type) ∈ fields → ofForm? levels type.objectForm = some type) :
    (fieldForms fields).mapM (declaredKey levels) = some fields := by
  induction fields with
  | nil => rfl
  | cons field rest ih =>
    obtain ⟨name, type⟩ := field
    have hfirst : declaredKey levels (name, type.objectForm) = some (name, type) := by
      rw [declaredKey, h name type List.mem_cons_self]
      rfl
    have hrest := ih fun other type' hmem => h other type' (List.mem_cons_of_mem _ hmem)
    rw [fieldForms, List.mapM_cons, hfirst, hrest]
    rfl

theorem mapM_attributeForms {levels : Nat} {fields : List (String × Field TypeConstraint)}
    (h : ∀ name field, (name, field) ∈ fields →
      ofForm? levels field.type.objectForm = some field.type) :
    (attributeForms fields).mapM (declaredAttribute levels) = some fields := by
  induction fields with
  | nil => rfl
  | cons field rest ih =>
    obtain ⟨name, type, optional⟩ := field
    have htype : ofForm? levels type.objectForm = some type :=
      h name ⟨type, optional⟩ List.mem_cons_self
    have hfirst : declaredAttribute levels
        (name, if optional then optionalForm type.objectForm else type.objectForm) =
          some (name, ⟨type, optional⟩) := by
      cases optional with
      | true => simp [declaredAttribute, ofForm?_optionalForm, htype]
      | false => simp [declaredAttribute, htype]
    have hrest := ih fun other field hmem => h other field (List.mem_cons_of_mem _ hmem)
    rw [attributeForms, List.mapM_cons, hfirst, hrest]
    rfl

theorem ofForm?_form {levels : Nat} {name : String} {make : TypeConstraint → TypeConstraint}
    {item : TypeConstraint} (known : (name, make) ∈ collections)
    (h : ofForm? levels item.objectForm = some item) :
    ofForm? (levels + 1) (.object (form name "items" item.objectForm)) = some (make item) := by
  have hfields : (form name "items" item.objectForm).lookup "fields" = none := rfl
  have hitems : itemsOf levels (form name "items" item.objectForm) = some item := h
  rw [ofForm?_collection levels known rfl (by simp [hfields]), hitems]
  rfl

theorem ofForm?_keyedMapForm {levels : Nat} {fields : List (String × TypeConstraint)}
    {items : TypeConstraint}
    (hfields : ∀ name type, (name, type) ∈ fields → ofForm? levels type.objectForm = some type)
    (hitems : ofForm? levels items.objectForm = some items) :
    ofForm? (levels + 1) (keyedMap fields items).objectForm = some (keyedMap fields items) := by
  by_cases hany : items.isAny = true
  · obtain rfl := isAny_iff.1 hany
    rw [objectForm, if_pos hany, ofForm?_keyedMap levels rfl rfl, mapM_fieldForms hfields]
    rfl
  · rw [objectForm, if_neg hany, ofForm?_keyedMap levels rfl rfl, mapM_fieldForms hfields]
    have hmember : itemsOf levels (form "map" "fields" (.object (fieldForms fields)) ++
        [("items", items.objectForm)]) = some items := hitems
    rw [hmember]
    rfl

theorem ofForm?_attributesForm {levels : Nat} {fields : List (String × Field TypeConstraint)}
    (h : ∀ name field, (name, field) ∈ fields →
      ofForm? levels field.type.objectForm = some field.type) :
    ofForm? (levels + 1) (object fields).objectForm = some (object fields) := by
  rw [objectForm, ofForm?_object levels rfl rfl, mapM_attributeForms h]
  rfl

/-- The object form of a type is read as the type, with as many levels as the type has. -/
theorem ofForm?_objectForm {levels : Nat} {t : TypeConstraint} (h : t.depth ≤ levels) :
    ofForm? levels t.objectForm = some t := by
  induction t using TypeConstraint.induction generalizing levels with
  | any =>
    obtain ⟨levels, rfl⟩ := exists_level h
    exact ofForm?_anyForm levels
  | primitive p =>
    obtain ⟨levels, rfl⟩ := exists_level h
    exact ofForm?_primitiveForm levels p
  | list item ih =>
    obtain ⟨levels, rfl⟩ := exists_level h
    rw [depth] at h
    rw [objectForm]
    exact ofForm?_form (by simp [collections]) (ih (by omega))
  | set item ih =>
    obtain ⟨levels, rfl⟩ := exists_level h
    rw [depth] at h
    rw [objectForm]
    exact ofForm?_form (by simp [collections]) (ih (by omega))
  | map item ih =>
    obtain ⟨levels, rfl⟩ := exists_level h
    rw [depth] at h
    rw [objectForm]
    exact ofForm?_form (by simp [collections]) (ih (by omega))
  | keyedMap fields items ihfields ihitems =>
    obtain ⟨levels, rfl⟩ := exists_level h
    rw [depth] at h
    have hfields : depthOfFields fields ≤ levels := by omega
    have hitems : items.depth ≤ levels := by omega
    exact ofForm?_keyedMapForm
      (fun name type hmem => ihfields name type hmem (depthOfFields_le_iff.1 hfields name type hmem))
      (ihitems hitems)
  | object fields ih =>
    obtain ⟨levels, rfl⟩ := exists_level h
    rw [depth] at h
    have hfields : depthOfAttributes fields ≤ levels := by omega
    exact ofForm?_attributesForm fun name field hmem =>
      ih name field hmem (depthOfAttributes_le_iff.1 hfields name field hmem)

/-- Reading undoes writing: the object form of a type is the type again under every bound that the
type keeps to. -/
theorem ofValue_objectForm {max : Nat} {t : TypeConstraint} (h : t.depth ≤ max) :
    ofValue max t.objectForm = .ok t := by
  rw [ofValue, ofForm?_objectForm h]

theorem ofValue_objectForm_tags :
    (object [("tags", ⟨keyedMap [("owner", primitive .string)] any, true⟩),
      ("sizes", ⟨list (primitive .number), false⟩)]).depth ≤ 3 ∧
    ofValue 3 (object [("tags", ⟨keyedMap [("owner", primitive .string)] any, true⟩),
      ("sizes", ⟨list (primitive .number), false⟩)]).objectForm =
        .ok (object [("tags", ⟨keyedMap [("owner", primitive .string)] any, true⟩),
          ("sizes", ⟨list (primitive .number), false⟩)]) :=
  ⟨by decide, ofValue_objectForm (by decide)⟩

end InfraConfig.TypeConstraint
