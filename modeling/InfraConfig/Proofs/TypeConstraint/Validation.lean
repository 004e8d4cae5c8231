import InfraConfig.Proofs.TypeConstraint.Conformance

/-! What a validator finds. A check of a collection or an object is a list of checks of its parts,
of which the first failure counts (`firstFailure`); the checks of items, members and attributes are
all brought to this form. A validator either accepts a value that is of the type, or refuses it with
a mismatch that is located below the path it was given (`Verdict`). That is shown once for checks of
parts (`verdict_parts`), and from there for every type by induction (`isDecided`). -/
namespace InfraConfig.TypeConstraint

/-- The first failure among results, if there is one. -/
def firstFailure : List (Except Mismatch Unit) → Except Mismatch Unit
  | [] => .ok ()
  | .ok () :: rest => firstFailure rest
  | .error m :: _ => .error m

theorem firstFailure_cons (result : Except Mismatch Unit) (rest : List (Except Mismatch Unit)) :
    firstFailure (result :: rest) = result >>= fun _ => firstFailure rest := by
  cases result <;> rfl

theorem firstFailure_cases (results : List (Except Mismatch Unit)) :
    (firstFailure results = .ok () ∧ ∀ result ∈ results, result = .ok ()) ∨
      ∃ m, firstFailure results = .error m ∧ .error m ∈ results := by
  induction results with
  | nil => exact .inl ⟨rfl, by simp⟩
  | cons result rest ih =>
    cases result with
    | error m => exact .inr ⟨m, rfl, by simp⟩
    | ok done =>
      rcases ih with ⟨hrest, hall⟩ | ⟨m, hrest, hmem⟩
      · refine .inl ⟨hrest, fun other hother => ?_⟩
        rcases List.mem_cons.1 hother with rfl | hin
        · rfl
        · exact hall other hin
      · exact .inr ⟨m, hrest, List.mem_cons_of_mem _ hmem⟩

/-! ### Checks as lists of checks -/

theorem checkItems_eq (item : Validator) (path : List String) (index : Nat) (values : List Value) :
    checkItems item path index values =
      firstFailure ((values.zipIdx index).map fun (x, i) => item (path ++ [toString i]) x) := by
  induction values generalizing index with
  | nil => rfl
  | cons value rest ih =>
    rw [checkItems, ih, List.zipIdx_cons, List.map_cons, firstFailure_cons]

theorem checkMembers_eq (member : String → Validator) (path : List String)
    (members : List (String × Value)) : checkMembers member path members =
      firstFailure (members.map fun (key, x) => member key (path ++ [key]) x) := by
  induction members with
  | nil => rfl
  | cons pair rest ih =>
    obtain ⟨key, value⟩ := pair
    rw [checkMembers, ih, List.map_cons, firstFailure_cons]

/-- The check of one attribute against the members of an object. -/
def checkAttribute (path : List String) (members : List (String × Value))
    (field : AttributeValidator) : Except Mismatch Unit :=
  match members.lookup field.name with
  | some value => field.validator (path ++ [field.name]) value
  | none => if field.mayBeAbsent then .ok () else .error ⟨path ++ [field.name], .missing⟩

theorem checkAttributes_eq (path : List String) (members : List (String × Value))
    (fields : List AttributeValidator) : checkAttributes path members fields =
      firstFailure (fields.map (checkAttribute path members)) := by
  induction fields with
  | nil => rfl
  | cons field rest ih =>
    rw [checkAttributes, ih, List.map_cons, firstFailure_cons, checkAttribute]
    cases members.lookup field.name with
    | some value => rfl
    | none => cases field.mayBeAbsent <;> rfl

theorem lookup_fieldValidators (fields : List (String × TypeConstraint)) (key : String) :
    (fieldValidators fields).lookup key = (fields.lookup key).map validator := by
  induction fields with
  | nil => rfl
  | cons field rest ih =>
    obtain ⟨name, type⟩ := field
    rw [fieldValidators, Keyed.lookup_cons_eq, Keyed.lookup_cons_eq, ih]
    split <;> rfl

/-- The validator of an attribute. -/
def attributeValidator (name : String) (field : Field TypeConstraint) : AttributeValidator :=
  ⟨name, field.optional || field.type.isAny, field.type.validator⟩

theorem attributeValidators_eq (fields : List (String × Field TypeConstraint)) :
    attributeValidators fields = fields.map fun (name, field) => attributeValidator name field := by
  induction fields with
  | nil => rfl
  | cons pair rest ih =>
    obtain ⟨name, type, optional⟩ := pair
    rw [attributeValidators, ih]
    rfl

theorem isOpen_iff {fields : List (String × Field TypeConstraint)} :
    isOpen fields = true ↔ ∃ name field, (name, field) ∈ fields ∧ field.type = any := by
  simp [isOpen, isAny_iff]

/-! ### Verdicts -/

/-- What a validator that is right finds of a value at a path. -/
inductive Verdict (t : TypeConstraint) (value : Value) (path : List String) :
    Except Mismatch Unit → Prop where
  | accepted (h : t.Conforms value) : Verdict t value path (.ok ())
  | refused (m : Mismatch) (h : Located t value m) : Verdict t value path (.error (m.under path))

variable {t : TypeConstraint} {value : Value} {path : List String}

theorem Verdict.conforms (h : Verdict t value path (.ok ())) : t.Conforms value := by
  cases h with
  | accepted h => exact h

/-- What is found at the outset of a path is located in the value itself. -/
theorem Verdict.located {m : Mismatch} (h : Verdict t value [] (.error m)) : Located t value m := by
  cases h with
  | refused m h => exact h

/-- A value that is not of the type is refused for its kind. -/
theorem Verdict.wrongKind (h : ¬ t.Conforms value) :
    Verdict t value path (.error ⟨path, .wrongKind t value⟩) := by
  have hunder : Mismatch.under path ⟨[], .wrongKind t value⟩ = ⟨path, .wrongKind t value⟩ := by
    simp [Mismatch.under]
  rw [← hunder]
  exact .refused _ (.wrongKind (.here t value) h rfl rfl)

/-- What is wrong with a part is wrong with the whole. -/
theorem Verdict.located_of_part {type : TypeConstraint} {x : Value} {segment : String}
    {m : Mismatch} (hpart : Part t value segment type x)
    (h : Verdict type x (path ++ [segment]) (.error m)) :
    ∃ m', Located t value m' ∧ m = m'.under path := by
  cases h with
  | refused inner hinner =>
    exact ⟨inner.under [segment], hinner.of_part hpart, Mismatch.under_append path [segment] inner⟩

/-- Checks of parts are right for the whole if each is right for its part, and the whole is of its
type once these parts are of theirs. -/
theorem verdict_parts {ι : Type} {parts : List ι} {result : ι → Except Mismatch Unit}
    (segment : ι → String) (type : ι → TypeConstraint) (part : ι → Value)
    (hpart : ∀ i ∈ parts, Part t value (segment i) (type i) (part i))
    (hverdict : ∀ i ∈ parts, Verdict (type i) (part i) (path ++ [segment i]) (result i))
    (hconforms : (∀ i ∈ parts, (type i).Conforms (part i)) → t.Conforms value) :
    Verdict t value path (firstFailure (parts.map result)) := by
  rcases firstFailure_cases (parts.map result) with ⟨hresult, hall⟩ | ⟨m, hresult, hmem⟩
  · rw [hresult]
    refine .accepted (hconforms fun i hi => ?_)
    have hi' := hverdict i hi
    rw [hall _ (List.mem_map_of_mem hi)] at hi'
    exact hi'.conforms
  · rw [hresult]
    obtain ⟨i, hi, hfailed⟩ := List.mem_map.1 hmem
    have hi' := hverdict i hi
    rw [hfailed] at hi'
    obtain ⟨m', hlocated, rfl⟩ := hi'.located_of_part (hpart i hi)
    exact .refused m' hlocated

/-- The validator of the type is right about every value, whatever the path that it is given. -/
def IsDecided (t : TypeConstraint) : Prop :=
  ∀ path value, Verdict t value path (t.validator path value)

/-- The checks of the items of a list. -/
theorem verdict_items {item : TypeConstraint} (htype : t = list item ∨ t = set item)
    (ih : item.IsDecided) (path : List String) (items : List Value) :
    Verdict t (.list items) path (checkItems item.validator path 0 items) := by
  rw [checkItems_eq]
  refine verdict_parts (fun p => toString p.2) (fun _ => item) (·.1) ?_ ?_ ?_
  · rintro ⟨x, index⟩ hmem
    exact .item htype (List.mem_zipIdx_iff_getElem?.1 hmem)
  · rintro ⟨x, index⟩ _
    exact ih _ x
  · intro hall
    rw [conforms_list_iff htype]
    intro x hx
    obtain ⟨index, hindex⟩ := List.mem_iff_getElem?.1 hx
    exact hall (x, index) (List.mem_zipIdx_iff_getElem?.2 hindex)

/-- The checks of the values of a map. -/
theorem verdict_map {item : TypeConstraint} (ih : item.IsDecided) (path : List String)
    (members : List (String × Value)) : Verdict (map item) (.object members) path
      (checkMembers (fun _ => item.validator) path members) := by
  rw [checkMembers_eq]
  refine verdict_parts (·.1) (fun _ => item) (·.2) ?_ ?_ ?_
  · rintro ⟨key, x⟩ hmem
    exact .value hmem
  · rintro ⟨key, x⟩ _
    exact ih _ x
  · intro hall
    exact conforms_map_iff.2 fun key x hx => hall (key, x) hx

/-- The checks of the values of a keyed map, each against the type of its key. -/
theorem verdict_keyedMap {fields : List (String × TypeConstraint)} {items : TypeConstraint}
    (ihfields : ∀ name type, (name, type) ∈ fields → type.IsDecided) (ihitems : items.IsDecided)
    (path : List String) (members : List (String × Value)) :
    Verdict (keyedMap fields items) (.object members) path
      (checkMembers (fun key => ((fieldValidators fields).lookup key).getD items.validator) path
        members) := by
  rw [checkMembers_eq]
  refine verdict_parts (·.1) (fun member => (fields.lookup member.1).getD items) (·.2) ?_ ?_ ?_
  · rintro ⟨key, x⟩ hmem
    cases hlookup : fields.lookup key with
    | some type => simpa [hlookup] using Part.declaredKey hmem hlookup
    | none => simpa [hlookup] using Part.otherKey hmem (Keyed.lookup_eq_none_iff.1 hlookup)
  · rintro ⟨key, x⟩ _
    simp only [lookup_fieldValidators]
    cases hlookup : fields.lookup key with
    | some type => exact ihfields key type (Keyed.mem_of_lookup hlookup) _ x
    | none => exact ihitems _ x
  · intro hall
    rw [conforms_keyedMap_iff]
    intro key x hx
    have hx' := hall (key, x) hx
    constructor
    · intro type hlookup
      simpa [hlookup] using hx'
    · intro hnew
      simpa [Keyed.lookup_eq_none_iff.2 hnew] using hx'

/-! ### Objects -/

section Object
variable {fields : List (String × Field TypeConstraint)} {members : List (String × Value)}
  {name : String} {field : Field TypeConstraint}

theorem of_checkAttribute_eq_ok (ih : field.type.IsDecided)
    (h : checkAttribute path members (attributeValidator name field) = .ok ()) :
    (field.optional = false → field.type ≠ any → name ∈ Keyed.keys members) ∧
      ∀ x, members.lookup name = some x → field.type.Conforms x := by
  unfold checkAttribute attributeValidator at h
  cases hlookup : members.lookup name with
  | some value =>
    simp only [hlookup] at h
    have hverdict := ih (path ++ [name]) value
    rw [h] at hverdict
    refine ⟨fun _ _ => Keyed.mem_keys_of_lookup hlookup, ?_⟩
    rintro _ ⟨⟩
    exact hverdict.conforms
  | none =>
    simp only [hlookup] at h
    refine ⟨fun hrequired htyped => ?_, nofun⟩
    split at h
    · next hmay =>
      rw [hrequired, Bool.false_or, isAny_iff] at hmay
      exact absurd hmay htyped
    · cases h

theorem located_of_checkAttribute_eq_error (hfield : (name, field) ∈ fields)
    (ih : field.type.IsDecided) {m : Mismatch}
    (h : checkAttribute path members (attributeValidator name field) = .error m) :
    ∃ m', Located (object fields) (.object members) m' ∧ m = m'.under path := by
  unfold checkAttribute attributeValidator at h
  cases hlookup : members.lookup name with
  | some value =>
    simp only [hlookup] at h
    have hverdict := ih (path ++ [name]) value
    rw [h] at hverdict
    exact hverdict.located_of_part (.field hfield hlookup)
  | none =>
    simp only [hlookup] at h
    split at h
    · cases h
    · next hmay =>
      cases h
      have hrequired : field.optional = false ∧ field.type ≠ any := by
        simpa [← isAny_iff] using hmay
      exact ⟨⟨[name], .missing⟩, .missing (.here _ _) rfl hfield hrequired
        (Keyed.lookup_eq_none_iff.1 hlookup) rfl rfl, rfl⟩

theorem checkUndeclared_cases (path : List String) (declared : List String)
    (members : List (String × Value)) :
    (checkUndeclared path declared members = .ok () ∧ ∀ key ∈ Keyed.keys members, key ∈ declared) ∨
      ∃ key ∈ Keyed.keys members, key ∉ declared ∧
        checkUndeclared path declared members = .error ⟨path ++ [key], .undeclared⟩ := by
  unfold checkUndeclared
  split
  · next key x hfind =>
    have hmem := List.mem_of_find?_eq_some hfind
    have hnew := List.find?_some hfind
    exact .inr ⟨key, List.mem_map_of_mem hmem, by simpa using hnew, rfl⟩
  · next hfind =>
    refine .inl ⟨rfl, fun key hkey => ?_⟩
    obtain ⟨member, hmem, rfl⟩ := List.mem_map.1 hkey
    simpa using List.find?_eq_none.1 hfind member hmem

/-- The check of the other members of an object, once its attributes are as they should be. -/
theorem verdict_undeclared (hattributes : ∀ name field, (name, field) ∈ fields →
      (field.optional = false → field.type ≠ any → name ∈ Keyed.keys members) ∧
        ∀ x, members.lookup name = some x → field.type.Conforms x) (path : List String) :
    Verdict (object fields) (.object members) path
      (if isOpen fields then .ok () else checkUndeclared path (Keyed.keys fields) members) := by
  have hconforms : ((∃ name field, (name, field) ∈ fields ∧ field.type = any) ∨
      ∀ key ∈ Keyed.keys members, key ∈ Keyed.keys fields) →
      (object fields).Conforms (.object members) := by
    intro hothers
    exact conforms_object_iff.2 ⟨fun name field hfield => (hattributes name field hfield).1,
      fun name field hfield => (hattributes name field hfield).2, hothers⟩
  by_cases hopen : isOpen fields = true
  · rw [if_pos hopen]
    exact .accepted (hconforms (.inl (isOpen_iff.1 hopen)))
  · rw [if_neg hopen]
    rcases checkUndeclared_cases path (Keyed.keys fields) members
      with ⟨hclosed, hdeclared⟩ | ⟨key, hkey, hnew, hundeclared⟩
    · rw [hclosed]
      exact .accepted (hconforms (.inr hdeclared))
    · rw [hundeclared]
      have hnone : ∀ name field, (name, field) ∈ fields → field.type ≠ any :=
        fun name field hfield hany => hopen (isOpen_iff.2 ⟨name, field, hfield, hany⟩)
      exact .refused ⟨[key], .undeclared⟩ (.undeclared (.here _ _) rfl hkey hnew hnone rfl rfl)

/-- The check of an object: first its attributes, then, if it is closed, the other members. -/
theorem verdict_object (ih : ∀ name field, (name, field) ∈ fields → field.type.IsDecided)
    (path : List String) :
    Verdict (object fields) (.object members) path
      ((object fields).validator path (.object members)) := by
  have hmem : ∀ result, result ∈ ((attributeValidators fields).map (checkAttribute path members)) ↔
      ∃ name field, (name, field) ∈ fields ∧
        checkAttribute path members (attributeValidator name field) = result := by
    intro result
    rw [attributeValidators_eq, List.map_map]
    simp only [List.mem_map, Prod.exists, Function.comp]
  simp only [validator, checkAttributes_eq]
  rcases firstFailure_cases ((attributeValidators fields).map (checkAttribute path members))
    with ⟨hresult, hall⟩ | ⟨m, hresult, hfailed⟩
  · rw [hresult]
    refine verdict_undeclared (fun name field hfield => ?_) path
    have hok := hall _ ((hmem _).2 ⟨name, field, hfield, rfl⟩)
    exact of_checkAttribute_eq_ok (ih name field hfield) hok
  · rw [hresult]
    obtain ⟨name, field, hfield, hfailed⟩ := (hmem _).1 hfailed
    obtain ⟨m', hlocated, rfl⟩ :=
      located_of_checkAttribute_eq_error hfield (ih name field hfield) hfailed
    exact .refused m' hlocated

end Object

/-! ### Validators -/

theorem isDecided (t : TypeConstraint) : t.IsDecided := by
  induction t using TypeConstraint.induction with
  | any =>
    intro path value
    rw [validator]
    exact .accepted (by simp [Conforms])
  | primitive p =>
    intro path value
    simp only [validator]
    split
    · next haccepts =>
      refine .accepted ?_
      rw [Conforms]
      exact Primitive.accepts_iff.1 haccepts
    · next hrefuses =>
      refine .wrongKind ?_
      rw [Conforms]
      exact fun hkind => hrefuses (Primitive.accepts_iff.2 hkind)
  | list item ih =>
    intro path value
    rw [validator]
    cases value with
    | list items => exact verdict_items (.inl rfl) ih path items
    | _ => exact .wrongKind (by simp [Conforms])
  | set item ih =>
    intro path value
    rw [validator]
    cases value with
    | list items => exact verdict_items (.inr rfl) ih path items
    | _ => exact .wrongKind (by simp [Conforms])
  | map item ih =>
    intro path value
    rw [validator]
    cases value with
    | object members => exact verdict_map ih path members
    | _ => exact .wrongKind (by simp [Conforms])
  | keyedMap fields items ihfields ihitems =>
    intro path value
    rw [validator]
    cases value with
    | object members => exact verdict_keyedMap ihfields ihitems path members
    | _ => exact .wrongKind (by simp [Conforms])
  | object fields ih =>
    intro path value
    cases value with
    | object members => exact verdict_object ih path
    | _ =>
      rw [validator]
      exact .wrongKind (by simp [Conforms])

/-- A check accepts exactly the values of the type, and every failure tells a place where the value
is not of it. -/
theorem check_eq_ok_iff_and_located (t : TypeConstraint) (value : Value) :
    (t.check value = .ok () ↔ t.Conforms value) ∧
      ∀ m, t.check value = .error m → Located t value m := by
  have hverdict : Verdict t value [] (t.check value) := t.isDecided [] value
  constructor
  · constructor
    · intro hok
      rw [hok] at hverdict
      exact hverdict.conforms
    · intro hconforms
      cases hcheck : t.check value with
      | ok done => rfl
      | error m =>
        rw [hcheck] at hverdict
        exact absurd hconforms hverdict.located.not_conforms
  · intro m herror
    rw [herror] at hverdict
    exact hverdict.located

/-- The path leads through the second item and its attribute to the second number, which is none. -/
example : (list (object [("ports", ⟨list (primitive .number), false⟩)])).check
      (.list [.object [("ports", .list [.int 80])],
        .object [("ports", .list [.int 443, .string "22"])]]) =
    .error ⟨["1", "ports", "1"], .wrongKind (primitive .number) (.string "22")⟩ := by
  rfl

end InfraConfig.TypeConstraint
