import InfraConfig.Proofs.TypeConstraint.ObjectForm

/-! How deep a type is that was read under a bound. The bound is checked wherever a form is read. The
elements of a collection in object form may be left out, and are then of any type, without being
read: a collection at the last level that the bound allows makes a type one level deeper than the
bound (`OmitsItems`). Every other type that is read keeps to the bound
(`depth_le_iff_not_omitsItems`). -/
namespace InfraConfig.TypeConstraint

/-! ### Parts of a form -/

/-- Whether an object form has a type with elements. -/
def IsCollection (members : List (String × Value)) : Prop :=
  typeName? members ∈ [some "list", some "set", some "map"]

instance (members : List (String × Value)) : Decidable (IsCollection members) :=
  inferInstanceAs (Decidable (typeName? members ∈ _))

/-- The forms of the declared keys of a map and of the attributes of an object. -/
def declaredForms (members : List (String × Value)) : List (String × Value) :=
  if typeName? members ∈ [some "map", some "object"] then
    match members.lookup "fields" with
    | some (.object fields) => fields
    | _ => []
  else []

/-- A form that is read as a part of an object form. -/
inductive HasPart (members : List (String × Value)) : Value → Prop where
  | items {form : Value} (collection : IsCollection members)
      (given : members.lookup "items" = some form) : HasPart members form
  | declared {name : String} {form : Value} (mem : (name, form) ∈ declaredForms members) :
      HasPart members form

/-- At the last of the given levels stands a collection that leaves out the type of its elements. -/
def OmitsItems : (levels : Nat) → Value → Prop
  | levels + 1, .object members =>
    (levels = 0 ∧ IsCollection members ∧ members.lookup "items" = none) ∨
      ∃ form, HasPart members form ∧ OmitsItems levels form
  | _, _ => False

/-! ### Depth of the parts -/

/-- A form that is read as a type of at most the given depth. -/
def Fits (levels depth : Nat) (form : Value) : Prop :=
  ∃ t, ofForm? levels form = some t ∧ t.depth ≤ depth

/-- The elements of a collection are of at most the given depth; elements that are left out have
depth one. -/
def ItemsFit (levels depth : Nat) (members : List (String × Value)) : Prop :=
  (∀ form, members.lookup "items" = some form → Fits levels depth form) ∧
    (members.lookup "items" = none → 1 ≤ depth)

/-- The parts of a form are of at most the given depth. -/
def PartsFit (levels depth : Nat) (members : List (String × Value)) : Prop :=
  (∀ name form, (name, form) ∈ declaredForms members → Fits levels depth form) ∧
    (IsCollection members → ItemsFit levels depth members)

theorem forall_mem_iff_of_mapM {α β γ : Type} {f : α → Option β} {g : α → β → γ} {xs : List α}
    {ys : List γ} (h : (xs.mapM fun x => (f x).map (g x)) = some ys) (P : γ → Prop) :
    (∀ y ∈ ys, P y) ↔ ∀ x ∈ xs, ∃ b, f x = some b ∧ P (g x b) := by
  induction xs generalizing ys with
  | nil =>
    cases h
    simp
  | cons x xs ih =>
    rw [List.mapM_cons] at h
    cases hfirst : f x with
    | none =>
      rw [hfirst] at h
      cases h
    | some b =>
      cases hrest : xs.mapM fun x => (f x).map (g x) with
      | none =>
        rw [hfirst, hrest] at h
        cases h
      | some rest =>
        rw [hfirst, hrest] at h
        cases h
        simp [hfirst, ih hrest]

section Parts
variable {levels depth : Nat} {members fields : List (String × Value)} {t : TypeConstraint}

theorem itemsFit_iff {item : TypeConstraint} (h : itemsOf levels members = some item) :
    ItemsFit levels depth members ↔ item.depth ≤ depth := by
  rw [itemsOf] at h
  cases hlookup : members.lookup "items" with
  | none =>
    rw [hlookup] at h
    cases h
    simp [ItemsFit, hlookup, TypeConstraint.depth]
  | some form =>
    rw [hlookup] at h
    simp [ItemsFit, Fits, hlookup, h]

theorem depthOfFields_le_iff_fits {declared : List (String × TypeConstraint)}
    (h : fields.mapM (declaredKey levels) = some declared) :
    depthOfFields declared ≤ depth ↔
      ∀ name form, (name, form) ∈ fields → Fits levels depth form := by
  have := forall_mem_iff_of_mapM h fun field => field.2.depth ≤ depth
  rw [Prod.forall, Prod.forall, ← depthOfFields_le_iff] at this
  exact this

theorem depthOfAttributes_le_iff_fits {declared : List (String × Field TypeConstraint)}
    (h : fields.mapM (declaredAttribute levels) = some declared) :
    depthOfAttributes declared ≤ depth ↔
      ∀ name form, (name, form) ∈ fields → Fits levels depth form := by
  have := forall_mem_iff_of_mapM h fun field => field.2.type.depth ≤ depth
  rw [Prod.forall, Prod.forall, ← depthOfAttributes_le_iff] at this
  exact this

theorem declaredForms_eq_nil (h : typeName? members ∈ [some "map", some "object"] →
    ∀ fields, members.lookup "fields" ≠ some (.object fields)) : declaredForms members = [] := by
  rw [declaredForms]
  split
  · next hname =>
    split
    · next fields hlookup => exact absurd hlookup (h hname fields)
    · rfl
  · rfl

theorem declaredForms_eq (hname : typeName? members ∈ [some "map", some "object"])
    (hfields : members.lookup "fields" = some (.object fields)) : declaredForms members = fields := by
  rw [declaredForms, if_pos hname, hfields]

/-- A form without parts is read as a type of depth one. -/
theorem partsFit_of_leaf (hcollection : ¬ IsCollection members)
    (hfields : typeName? members ∈ [some "map", some "object"] →
      ∀ fields, members.lookup "fields" ≠ some (.object fields)) :
    PartsFit levels depth members := by
  rw [PartsFit, declaredForms_eq_nil hfields]
  exact ⟨nofun, fun h => absurd h hcollection⟩

theorem depth_le_iff_of_keyedMap (hname : typeName? members = some "map")
    (hfields : members.lookup "fields" = some (.object fields))
    (h : ofForm? (levels + 1) (.object members) = some t) :
    t.depth ≤ depth + 1 ↔ PartsFit levels depth members := by
  have hcollection : IsCollection members := by simp [IsCollection, hname]
  rw [ofForm?_keyedMap levels hname hfields] at h
  cases hdeclared : fields.mapM (declaredKey levels) with
  | none =>
    rw [hdeclared] at h
    cases h
  | some declared =>
    cases hitems : itemsOf levels members with
    | none =>
      rw [hdeclared, hitems] at h
      cases h
    | some item =>
      rw [hdeclared, hitems] at h
      cases h
      rw [TypeConstraint.depth, PartsFit, declaredForms_eq (by simp [hname]) hfields,
        ← depthOfFields_le_iff_fits hdeclared, itemsFit_iff hitems]
      simp only [hcollection, true_implies]
      omega

theorem isCollection_of_collection {name : String} {make : TypeConstraint → TypeConstraint}
    (known : (name, make) ∈ collections) (hname : typeName? members = some name) :
    IsCollection members ∧ (typeName? members ∈ [some "map", some "object"] → name = "map") := by
  rw [IsCollection, hname]
  simp only [collections, List.mem_cons, Prod.mk.injEq, List.not_mem_nil, or_false] at known
  rcases known with ⟨rfl, -⟩ | ⟨rfl, -⟩ | ⟨rfl, -⟩ <;> decide

theorem depth_le_iff_of_collection {name : String} {make : TypeConstraint → TypeConstraint}
    (known : (name, make) ∈ collections) (hname : typeName? members = some name)
    (h : ofForm? (levels + 1) (.object members) = some t) :
    t.depth ≤ depth + 1 ↔ PartsFit levels depth members := by
  by_cases hdeclared : name = "map" ∧ ∃ fields, members.lookup "fields" = some (.object fields)
  · obtain ⟨rfl, fields, hfields⟩ := hdeclared
    exact depth_le_iff_of_keyedMap hname hfields h
  · have hfields : name = "map" → ∀ fields, members.lookup "fields" ≠ some (.object fields) :=
      fun hmap fields hlookup => hdeclared ⟨hmap, fields, hlookup⟩
    obtain ⟨hcollection, hmap⟩ := isCollection_of_collection known hname
    have hnil : declaredForms members = [] := declaredForms_eq_nil fun hmem => hfields (hmap hmem)
    rw [ofForm?_collection levels known hname hfields] at h
    obtain ⟨item, hitem, rfl⟩ := Option.map_eq_some_iff.1 h
    rw [depth_of_collection known, PartsFit, hnil, itemsFit_iff hitem]
    simp only [hcollection, true_implies, List.not_mem_nil, false_implies, implies_true, true_and]
    omega

theorem depth_le_iff_of_object (hname : typeName? members = some "object")
    (h : ofForm? (levels + 1) (.object members) = some t) :
    t.depth ≤ depth + 1 ↔ PartsFit levels depth members := by
  have hcollection : ¬ IsCollection members := by simp [IsCollection, hname]
  by_cases hdeclared : ∃ fields, members.lookup "fields" = some (.object fields)
  · obtain ⟨fields, hfields⟩ := hdeclared
    rw [ofForm?_object levels hname hfields] at h
    obtain ⟨declared, hdeclared, rfl⟩ := Option.map_eq_some_iff.1 h
    rw [TypeConstraint.depth, PartsFit, declaredForms_eq (by simp [hname]) hfields,
      ← depthOfAttributes_le_iff_fits hdeclared]
    simp only [hcollection, false_implies, and_true]
    omega
  · have hfields : ∀ fields, members.lookup "fields" ≠ some (.object fields) :=
      fun fields hlookup => hdeclared ⟨fields, hlookup⟩
    rw [ofForm?_object_of_ne levels hname hfields] at h
    cases h
    exact iff_of_true (by simp [TypeConstraint.depth]) (partsFit_of_leaf hcollection fun _ => hfields)

/-- A type is one level deeper than its deepest part. -/
theorem depth_le_iff_partsFit (h : ofForm? (levels + 1) (.object members) = some t) :
    t.depth ≤ depth + 1 ↔ PartsFit levels depth members := by
  obtain ⟨p, hname⟩ | ⟨name, make, known, hname⟩ | hname | hunknown :=
    typeName_cases (typeName? members)
  · rw [ofForm?_primitive levels hname] at h
    cases h
    refine iff_of_true (by simp [TypeConstraint.depth]) (partsFit_of_leaf ?_ ?_)
    · rw [IsCollection, hname]
      cases p <;> decide
    · intro hmem
      rw [hname] at hmem
      exact absurd hmem (by cases p <;> decide)
  · exact depth_le_iff_of_collection known hname h
  · exact depth_le_iff_of_object hname h
  · rw [ofForm?_unknown levels hunknown] at h
    cases h
    simp only [typeNames, List.forall_mem_cons] at hunknown
    refine iff_of_true (by simp [TypeConstraint.depth]) (partsFit_of_leaf ?_ ?_)
    · simp [IsCollection, hunknown]
    · simp [hunknown]

end Parts

/-! ### The bound -/

theorem partsFit_iff {levels depth : Nat} {members : List (String × Value)} :
    PartsFit levels depth members ↔ (∀ form, HasPart members form → Fits levels depth form) ∧
      (IsCollection members → members.lookup "items" = none → 1 ≤ depth) := by
  constructor
  · rintro ⟨hdeclared, hitems⟩
    refine ⟨fun form hpart => ?_, fun hcollection => (hitems hcollection).2⟩
    cases hpart with
    | items hcollection hgiven => exact (hitems hcollection).1 form hgiven
    | declared hmem => exact hdeclared _ form hmem
  · rintro ⟨hparts, hitems⟩
    refine ⟨fun name form hmem => hparts form (.declared hmem), fun hcollection => ?_⟩
    exact ⟨fun form hgiven => hparts form (.items hcollection hgiven), hitems hcollection⟩

theorem depth_le_of_ofExpression? {levels : Nat} {s : List Char} {t : TypeConstraint}
    (h : ofExpression? (levels + 1) s = some t) : t.depth ≤ levels + 1 := by
  simp only [ofExpression?] at h
  split at h
  · next hread =>
    cases h
    exact depth_le_of_read hread
  · cases h
    simp [TypeConstraint.depth]
  · cases h
    simp [TypeConstraint.depth]
  · cases h

/-- A type that is read keeps to the bound exactly if no collection at the last level leaves out the
type of its elements, and is never more than one level deeper. -/
theorem depth_le_iff_not_omitsItems {levels : Nat} {form : Value} {t : TypeConstraint}
    (h : ofForm? levels form = some t) :
    (t.depth ≤ levels ↔ ¬ OmitsItems levels form) ∧ t.depth ≤ levels + 1 := by
  induction levels generalizing form t with
  | zero => cases h
  | succ levels ih =>
    cases form with
    | object members =>
      -- The form is read, so its parts are, at whatever depth.
      have hread : PartsFit levels t.depth members :=
        (depth_le_iff_partsFit h).1 (Nat.le_succ t.depth)
      rw [depth_le_iff_partsFit h, depth_le_iff_partsFit h]
      rw [partsFit_iff] at hread ⊢
      refine ⟨⟨?_, fun homits => ⟨fun form hpart => ?_, fun hcollection hnone => ?_⟩⟩, ?_⟩
      · rintro ⟨hfits, hitems⟩ (⟨rfl, hcollection, hnone⟩ | ⟨form, hpart, homits⟩)
        · exact absurd (hitems hcollection hnone) (by omega)
        · obtain ⟨part, hpart, hdepth⟩ := hfits form hpart
          exact (ih hpart).1.1 hdepth homits
      · obtain ⟨part, hsome, -⟩ := hread.1 form hpart
        exact ⟨part, hsome, (ih hsome).1.2 fun h => homits (.inr ⟨form, hpart, h⟩)⟩
      · cases levels with
        | zero => exact absurd (.inl ⟨rfl, hcollection, hnone⟩) homits
        | succ levels => omega
      · refine partsFit_iff.2 ⟨fun form hpart => ?_, fun _ _ => by omega⟩
        obtain ⟨part, hsome, -⟩ := hread.1 form hpart
        exact ⟨part, hsome, (ih hsome).2⟩
    | string expression =>
      have hdepth := depth_le_of_ofExpression? h
      exact ⟨iff_of_true hdepth id, Nat.le_succ_of_le hdepth⟩
    | _ =>
      cases h
      exact ⟨iff_of_true (by simp [TypeConstraint.depth]) id, by simp [TypeConstraint.depth]⟩

/-- A type that is read keeps to the bound, and its object form is read as the type again under the
same bound, exactly if no collection at the last level leaves out the type of its elements; one that
does is one level too deep. -/
theorem bounded_iff_not_omitsItems {max : Nat} {form : Value} {t : TypeConstraint}
    (h : ofValue max form = .ok t) :
    (t.depth ≤ max ∧ ofValue max t.objectForm = .ok t ↔ ¬ OmitsItems max form) ∧
      (OmitsItems max form → t.depth = max + 1) := by
  have hread : ofForm? max form = some t := by
    unfold ofValue at h
    split at h
    · next hform =>
      cases h
      exact hform
    · cases h
  obtain ⟨hbound, hlast⟩ := depth_le_iff_not_omitsItems hread
  refine ⟨⟨fun hkept => hbound.1 hkept.1, fun homits => ?_⟩, fun homits => ?_⟩
  · have hdepth : t.depth ≤ max := hbound.2 homits
    exact ⟨hdepth, by rw [ofValue, ofForm?_objectForm hdepth]⟩
  · have hdepth : ¬ t.depth ≤ max := fun hdepth => hbound.1 hdepth homits
    omega

theorem unbounded_list_of_sets :
    ofValue 2 (.object [("type", .string "list"), ("items", .object [("type", .string "set")])]) =
      .ok (list (set any)) ∧
    (list (set any)).depth = 2 + 1 := by
  have hread : ofValue 2 (.object [("type", .string "list"),
      ("items", .object [("type", .string "set")])]) = .ok (list (set any)) := rfl
  have hset : OmitsItems 1 (.object [("type", .string "set")]) := .inl ⟨rfl, by decide, rfl⟩
  have hlist : IsCollection [("type", .string "list"), ("items", .object [("type", .string "set")])] := by
    decide
  exact ⟨hread, (bounded_iff_not_omitsItems hread).2 (.inr ⟨_, .items hlist rfl, hset⟩)⟩

/-- A list without the type of its elements is read under the bound of one level, and is two levels
deep; its object form is refused. -/
theorem unbounded_list :
    ofValue 1 (.object [("type", .string "list")]) = .ok (list any) ∧ ¬ (list any).depth ≤ 1 ∧
      ofValue 1 (list any).objectForm = .error ⟨1⟩ :=
  ⟨rfl, by decide, rfl⟩

end InfraConfig.TypeConstraint
