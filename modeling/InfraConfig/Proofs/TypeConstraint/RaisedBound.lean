import InfraConfig.Proofs.TypeConstraint.ObjectForm

/-! Types under a raised bound. The levels that are left decide one thing only, whether a type is
refused for its depth. A reading that is not refused takes the same path with more levels left, be
it to a type or to a fault of the expression (`stays_read`), so that a type that is read, also one
that stands for what is no type, stays the same under every larger bound (`ofValue_of_le`). -/
namespace InfraConfig.TypeConstraint

/-! ### Expressions -/

/-- The result with more levels left is the same, unless the levels did not suffice. -/
def Stays {α : Type} (result more : Except Failure α) : Prop :=
  result = .error .tooDeep ∨ more = result

theorem Stays.refl {α : Type} (result : Except Failure α) : Stays result result := .inr rfl

theorem Stays.bind {α β : Type} {result more : Except Failure α} {next : α → Except Failure β}
    {nextMore : α → Except Failure β} (hresult : Stays result more)
    (hnext : ∀ a, Stays (next a) (nextMore a)) : Stays (result >>= next) (more >>= nextMore) := by
  obtain rfl | rfl := hresult
  · exact .inl rfl
  · cases more with
    | error failure => exact .refl _
    | ok a => exact hnext a

section Step
variable {fuel : Nat}
  (ihread : ∀ levels more ts, levels ≤ more → Stays (read fuel levels ts) (read fuel more ts))
  (ihfields : ∀ levels more fields ts, levels ≤ more →
    Stays (readFields fuel levels fields ts) (readFields fuel more fields ts))

include ihread ihfields

theorem stays_applied {levels more : Nat} (hle : levels ≤ more) (name : String) (ts : List Token) :
    Stays (read (fuel + 1) (levels + 1) (.ident name :: .opening .round :: ts))
      (read (fuel + 1) (more + 1) (.ident name :: .opening .round :: ts)) := by
  obtain ⟨make, hknown⟩ | rfl | rfl | hunknown := constructor_cases name
  · rw [read_collection fuel levels ts hknown, read_collection fuel more ts hknown]
    exact (ihread levels more ts hle).bind fun _ => .refl _
  · by_cases hcurly : ts.head? = some (.opening .curly)
    · obtain ⟨inner, rfl⟩ := List.head?_eq_some_iff.1 hcurly
      rw [read_object, read_object]
      exact (ihfields levels more [] inner hle).bind fun _ => .refl _
    · rw [read_object_of_ne fuel levels hcurly, read_object_of_ne fuel more hcurly]
      exact .refl _
  · -- a mark of a field that may be absent takes no level
    rw [read_optional, read_optional]
    exact (ihread (levels + 1) (more + 1) ts (Nat.succ_le_succ hle)).bind fun _ => .refl _
  · rw [read_unknown fuel levels ts hunknown, read_unknown fuel more ts hunknown]
    exact .refl _

theorem stays_step {levels more : Nat} (hle : levels ≤ more) (ts : List Token) :
    Stays (read (fuel + 1) levels ts) (read (fuel + 1) more ts) := by
  cases levels with
  | zero => exact .inl rfl
  | succ levels =>
    obtain ⟨more, rfl⟩ : ∃ m, more = m + 1 := Nat.exists_eq_add_one.2 (by omega)
    have hle := Nat.le_of_succ_le_succ hle
    cases ts with
    | nil => exact .refl _
    | cons token ts =>
      cases token with
      | ident name =>
        by_cases happlied : ts.head? = some (.opening .round)
        · obtain ⟨inner, rfl⟩ := List.head?_eq_some_iff.1 happlied
          exact stays_applied ihread ihfields hle name inner
        · rw [read_bare fuel levels name happlied, read_bare fuel more name happlied]
          exact .refl _
      | _ => exact .refl _

theorem staysFields_step {levels more : Nat} (hle : levels ≤ more)
    (fields : Keyed (Field TypeConstraint)) (ts : List Token) :
    Stays (readFields (fuel + 1) levels fields ts) (readFields (fuel + 1) more fields ts) := by
  cases ts with
  | nil => exact .refl _
  | cons token ts =>
    cases token with
    | comma => exact ihfields levels more fields ts hle
    | closing b => cases b <;> exact .refl _
    | ident name =>
      cases ts with
      | nil => exact .refl _
      | cons next ts =>
        cases next with
        | assign =>
          rw [readFields_field, readFields_field]
          exact (ihread levels more ts hle).bind fun part => ihfields levels more _ part.2 hle
        | _ => exact .refl _
    | _ => exact .refl _

end Step

theorem stays_read_and_readFields (fuel : Nat) :
    (∀ levels more ts, levels ≤ more → Stays (read fuel levels ts) (read fuel more ts)) ∧
    (∀ levels more fields ts, levels ≤ more →
      Stays (readFields fuel levels fields ts) (readFields fuel more fields ts)) := by
  induction fuel with
  | zero => exact ⟨fun _ _ _ _ => .refl _, fun _ _ _ _ _ => .refl _⟩
  | succ fuel ih =>
    exact ⟨fun _ _ ts hle => stays_step ih.1 ih.2 hle ts,
      fun _ _ fields ts hle => staysFields_step ih.1 ih.2 hle fields ts⟩

/-- A reading that is not refused for its depth goes the same way with more levels left, whether it
ends in a type or in a fault. -/
theorem stays_read {levels more : Nat} (hle : levels ≤ more) (fuel : Nat) (ts : List Token) :
    Stays (read fuel levels ts) (read fuel more ts) :=
  (stays_read_and_readFields fuel).1 levels more ts hle

theorem ofExpression?_of_le {levels more : Nat} {s : List Char} {t : TypeConstraint}
    (hle : levels ≤ more) (h : ofExpression? levels s = some t) : ofExpression? more s = some t := by
  simp only [ofExpression?] at h ⊢
  obtain hdeep | hsame := stays_read hle ((tokens (unwrap s)).length + 1) (tokens (unwrap s))
  · rw [hdeep] at h
    cases h
  · rwa [hsame]

/-! ### Object forms -/

theorem mapM_of_forall {α β : Type} {f g : α → Option β} (hfg : ∀ a b, f a = some b → g a = some b)
    {as : List α} {bs : List β} (h : as.mapM f = some bs) : as.mapM g = some bs := by
  induction as generalizing bs with
  | nil => exact h
  | cons a as ih =>
    rw [List.mapM_cons] at h
    obtain ⟨b, hfirst, h⟩ := Option.bind_eq_some_iff.1 h
    obtain ⟨rest, hrest, h⟩ := Option.bind_eq_some_iff.1 h
    rw [List.mapM_cons, hfg a b hfirst, ih hrest]
    exact h

section Parts
variable {levels more : Nat} (ih : ∀ form t, ofForm? levels form = some t → ofForm? more form = some t)
  {members : List (String × Value)}

include ih

theorem itemsOf_of_forall {item : TypeConstraint} (h : itemsOf levels members = some item) :
    itemsOf more members = some item := by
  rw [itemsOf] at h ⊢
  cases hlookup : members.lookup "items" with
  | none =>
    rw [hlookup] at h
    exact h
  | some form =>
    rw [hlookup] at h
    exact ih form item h

theorem declaredKey_of_forall (field : String × Value) (key : String × TypeConstraint)
    (h : declaredKey levels field = some key) : declaredKey more field = some key := by
  obtain ⟨t, hread, rfl⟩ := Option.map_eq_some_iff.1 h
  rw [declaredKey, ih field.2 t hread]
  rfl

theorem declaredAttribute_of_forall (field : String × Value) (key : String × Field TypeConstraint)
    (h : declaredAttribute levels field = some key) : declaredAttribute more field = some key := by
  obtain ⟨t, hread, rfl⟩ := Option.map_eq_some_iff.1 h
  rw [declaredAttribute, ih field.2 t hread]
  rfl

theorem ofForm?_members_of_forall {t : TypeConstraint}
    (h : ofForm? (levels + 1) (.object members) = some t) :
    ofForm? (more + 1) (.object members) = some t := by
  rw [ofForm?_members] at h ⊢
  split at h
  · exact h
  · exact h
  · exact h
  · obtain ⟨item, hitem, rfl⟩ := Option.map_eq_some_iff.1 h
    rw [itemsOf_of_forall ih hitem]
    rfl
  · obtain ⟨item, hitem, rfl⟩ := Option.map_eq_some_iff.1 h
    rw [itemsOf_of_forall ih hitem]
    rfl
  · split at h
    · obtain ⟨declared, hdeclared, h⟩ := Option.bind_eq_some_iff.1 h
      obtain ⟨item, hitem, h⟩ := Option.bind_eq_some_iff.1 h
      rw [mapM_of_forall (declaredKey_of_forall ih) hdeclared, itemsOf_of_forall ih hitem]
      exact h
    · obtain ⟨item, hitem, rfl⟩ := Option.map_eq_some_iff.1 h
      rw [itemsOf_of_forall ih hitem]
      rfl
  · split at h
    · obtain ⟨declared, hdeclared, rfl⟩ := Option.map_eq_some_iff.1 h
      rw [mapM_of_forall (declaredAttribute_of_forall ih) hdeclared]
      rfl
    · exact h
  · exact h

end Parts

theorem ofForm?_of_le {levels more : Nat} {form : Value} {t : TypeConstraint} (hle : levels ≤ more)
    (h : ofForm? levels form = some t) : ofForm? more form = some t := by
  induction levels generalizing more form t with
  | zero => cases h
  | succ levels ih =>
    obtain ⟨more, rfl⟩ : ∃ m, more = m + 1 := Nat.exists_eq_add_one.2 (by omega)
    cases form with
    | object members =>
      exact ofForm?_members_of_forall (fun _ _ => ih (Nat.le_of_succ_le_succ hle)) h
    | string expression => exact ofExpression?_of_le hle h
    | _ => exact h

/-- A raised bound changes no type that is read. -/
theorem ofValue_of_le {max more : Nat} {form : Value} {t : TypeConstraint} (hle : max ≤ more)
    (h : ofValue max form = .ok t) : ofValue more form = .ok t := by
  rw [ofValue] at h ⊢
  split at h
  · next hread =>
    cases h
    rw [ofForm?_of_le hle hread]
  · cases h

/-- A list of objects whose expression is broken off at the last level that the bound allows. -/
theorem ofValue_of_le_broken :
    3 ≤ 7 ∧
    ofValue 3 (.object [("type", .string "list"), ("items", .string "object(\x7b n = ")]) =
      .ok (list any) ∧
    ofValue 7 (.object [("type", .string "list"), ("items", .string "object(\x7b n = ")]) =
      .ok (list any) := by
  have htokens : tokens (unwrap "object(\x7b n = ".toList) =
      [.ident "object", .opening .round, .opening .curly, .ident "n", .assign] := by
    decide +kernel
  have hitems : itemsOf 2 [("type", .string "list"), ("items", .string "object(\x7b n = ")] =
      some any := by
    show ofExpression? 2 "object(\x7b n = ".toList = some any
    rw [ofExpression?, htokens]
    rfl
  have hread : ofValue 3 (.object [("type", .string "list"), ("items", .string "object(\x7b n = ")]) =
      .ok (list any) := by
    have hlist : ("list", list) ∈ collections := by simp [collections]
    rw [ofValue, ofForm?_collection 2 hlist rfl (by simp), hitems]
    rfl
  exact ⟨by decide, hread, ofValue_of_le (by decide) hread⟩

end InfraConfig.TypeConstraint
