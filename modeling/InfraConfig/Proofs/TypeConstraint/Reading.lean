import InfraConfig.TypeConstraint.Expression

/-! How type expressions are read. `read` is opened here and nowhere else: an equation for every
constructor says how it goes on, and the grammar of what it can have read is the relation `Reads`,
with one rule for each way to succeed (`reads_of_read`). From the grammar: reading consumes at least
one token (`Reads.length_lt`), and what is read keeps to the levels that were left
(`depth_le_of_read`). -/
namespace InfraConfig.TypeConstraint

/-- The constructors of a type from one other type, by name. -/
def collections : List (String × (TypeConstraint → TypeConstraint)) :=
  [("list", list), ("set", set), ("map", map)]

/-- The names that mean something before a bracket. -/
def constructors : List String := ["list", "set", "map", "object", "optional"]

theorem constructor_cases (name : String) :
    (∃ make, (name, make) ∈ collections) ∨ name = "object" ∨ name = "optional" ∨
      name ∉ constructors := by
  by_cases h : name ∈ constructors
  · simp only [constructors, List.mem_cons, List.not_mem_nil, or_false] at h
    rcases h with rfl | rfl | rfl | rfl | rfl
    · exact .inl ⟨list, by simp [collections]⟩
    · exact .inl ⟨set, by simp [collections]⟩
    · exact .inl ⟨map, by simp [collections]⟩
    · exact .inr (.inl rfl)
    · exact .inr (.inr (.inl rfl))
  · exact .inr (.inr (.inr h))

theorem depth_of_collection {name : String} {make : TypeConstraint → TypeConstraint}
    (h : (name, make) ∈ collections) (item : TypeConstraint) :
    (make item).depth = 1 + item.depth := by
  simp only [collections, List.mem_cons, Prod.mk.injEq, List.not_mem_nil, or_false] at h
  rcases h with ⟨-, rfl⟩ | ⟨-, rfl⟩ | ⟨-, rfl⟩ <;> simp only [depth]

theorem depth_ofName (name : String) : (ofName name).depth = 1 := by
  unfold ofName
  split
  · simp only [depth]
  · split
    · simp only [depth]
    · split <;> simp only [depth]

/-! ### Equations -/

section Equations
variable (fuel levels : Nat) (ts : List Token)

theorem read_collection {name : String} {make : TypeConstraint → TypeConstraint}
    (h : (name, make) ∈ collections) :
    read (fuel + 1) (levels + 1) (.ident name :: .opening .round :: ts) =
      read fuel levels ts >>= fun part => (expectClose part.2).map (make part.1, ·) := by
  simp only [collections, List.mem_cons, Prod.mk.injEq, List.not_mem_nil, or_false] at h
  rcases h with ⟨rfl, rfl⟩ | ⟨rfl, rfl⟩ | ⟨rfl, rfl⟩ <;> rfl

theorem read_object :
    read (fuel + 1) (levels + 1) (.ident "object" :: .opening .round :: .opening .curly :: ts) =
      readFields fuel levels [] ts >>= fun part =>
        (expectClose part.2).map (object part.1, ·) := rfl

theorem read_object_of_ne {ts : List Token} (h : ts.head? ≠ some (.opening .curly)) :
    read (fuel + 1) (levels + 1) (.ident "object" :: .opening .round :: ts) =
      .error .malformed := by
  apply read.eq_4
  rintro rest rfl
  exact h rfl

/-- What closes a constructor that takes more than a type: a bracket, or anything after a comma. -/
def closeOptional (ts : List Token) : Except Failure (List Token) :=
  if ts.head? = some .comma then skipToClose 0 ts else expectClose ts

theorem read_optional :
    read (fuel + 1) (levels + 1) (.ident "optional" :: .opening .round :: ts) =
      read fuel (levels + 1) ts >>= fun part => (closeOptional part.2).map (part.1, ·) := by
  refine congrArg (read fuel (levels + 1) ts >>= ·) (funext fun part => ?_)
  obtain ⟨type, rest⟩ := part
  cases rest with
  | nil => rfl
  | cons token rest => cases token <;> rfl

theorem read_unknown {name : String} (h : name ∉ constructors) :
    read (fuel + 1) (levels + 1) (.ident name :: .opening .round :: ts) =
      (skipToClose 0 ts).map (any, ·) := by
  simp only [constructors, List.mem_cons, List.not_mem_nil, or_false, not_or] at h
  obtain ⟨hlist, hset, hmap, hobject, hoptional⟩ := h
  rw [read.eq_def]
  simp only [if_neg hlist, if_neg hset, if_neg hmap, if_neg hobject, if_neg hoptional]
  rfl

theorem read_bare {ts : List Token} (name : String) (h : ts.head? ≠ some (.opening .round)) :
    read (fuel + 1) (levels + 1) (.ident name :: ts) = .ok (ofName name, ts) := by
  apply read.eq_5
  rintro rest rfl
  exact h rfl

theorem readFields_field (fields : Keyed (Field TypeConstraint)) (name : String) :
    readFields (fuel + 1) levels fields (.ident name :: .assign :: ts) =
      read fuel levels ts >>= fun part =>
        readFields fuel levels (Keyed.insert fields name ⟨part.1, isOptional ts⟩) part.2 := rfl

end Equations

/-! ### The grammar -/

/-- What a piece of an expression stands for: a type, or the fields that it adds to those before
it. -/
inductive Phrase where
  | type (t : TypeConstraint)
  | fields (before after : Keyed (Field TypeConstraint))

/-- With the given levels of nesting left, tokens are read as a phrase, and what follows it is
left. -/
inductive Reads : Nat → List Token → Phrase → List Token → Prop where
  | bare {levels : Nat} {name : String} {rest : List Token}
      (notApplied : rest.head? ≠ some (.opening .round)) :
      Reads (levels + 1) (.ident name :: rest) (.type (ofName name)) rest
  | collection {levels : Nat} {name : String} {make : TypeConstraint → TypeConstraint}
      {item : TypeConstraint} {ts rest : List Token} (known : (name, make) ∈ collections)
      (inner : Reads levels ts (.type item) (.closing .round :: rest)) :
      Reads (levels + 1) (.ident name :: .opening .round :: ts) (.type (make item)) rest
  | object {levels : Nat} {fields : Keyed (Field TypeConstraint)} {ts rest : List Token}
      (inner : Reads levels ts (.fields [] fields) (.closing .round :: rest)) :
      Reads (levels + 1) (.ident "object" :: .opening .round :: .opening .curly :: ts)
        (.type (object fields)) rest
  | optional {levels : Nat} {t : TypeConstraint} {ts between rest : List Token}
      (inner : Reads (levels + 1) ts (.type t) between) (closed : closeOptional between = .ok rest) :
      Reads (levels + 1) (.ident "optional" :: .opening .round :: ts) (.type t) rest
  | unknown {levels : Nat} {name : String} {ts rest : List Token} (unknown : name ∉ constructors)
      (skipped : skipToClose 0 ts = .ok rest) :
      Reads (levels + 1) (.ident name :: .opening .round :: ts) (.type any) rest
  | noField {levels : Nat} {fields : Keyed (Field TypeConstraint)} {rest : List Token} :
      Reads levels (.closing .curly :: rest) (.fields fields fields) rest
  | comma {levels : Nat} {before after : Keyed (Field TypeConstraint)} {ts rest : List Token}
      (more : Reads levels ts (.fields before after) rest) :
      Reads levels (.comma :: ts) (.fields before after) rest
  | field {levels : Nat} {before after : Keyed (Field TypeConstraint)} {name : String}
      {t : TypeConstraint} {ts between rest : List Token} (first : Reads levels ts (.type t) between)
      (more : Reads levels between
        (.fields (Keyed.insert before name ⟨t, isOptional ts⟩) after) rest) :
      Reads levels (.ident name :: .assign :: ts) (.fields before after) rest

theorem bind_eq_ok {α β : Type} {result : Except Failure α} {next : α → Except Failure β} {b : β}
    (h : result >>= next = .ok b) : ∃ a, result = .ok a ∧ next a = .ok b := by
  cases result with
  | error failure => cases h
  | ok a => exact ⟨a, rfl, h⟩

/-- A part is read and closed. -/
theorem closed_eq_ok {α β : Type} {result : Except Failure (α × List Token)}
    {close : List Token → Except Failure (List Token)} {f : α → β} {b : β} {rest : List Token}
    (h : (result >>= fun part => (close part.2).map (f part.1, ·)) = .ok (b, rest)) :
    ∃ a between, result = .ok (a, between) ∧ close between = .ok rest ∧ b = f a := by
  obtain ⟨⟨a, between⟩, hresult, hclosed⟩ := bind_eq_ok h
  cases hclose : close between with
  | error failure =>
    rw [hclose] at hclosed
    cases hclosed
  | ok left =>
    rw [hclose] at hclosed
    cases hclosed
    exact ⟨a, between, hresult, hclose, rfl⟩

theorem eq_of_expectClose {ts rest : List Token} (h : expectClose ts = .ok rest) :
    ts = .closing .round :: rest := by
  unfold expectClose at h
  split at h
  · rw [Except.ok.inj h]
  · cases h

section Grammar
variable {fuel : Nat}
  (ihread : ∀ levels ts t rest, read fuel levels ts = .ok (t, rest) →
    Reads levels ts (.type t) rest)
  (ihfields : ∀ levels before ts after rest, readFields fuel levels before ts = .ok (after, rest) →
    Reads levels ts (.fields before after) rest)

include ihread ihfields

theorem reads_of_applied {levels : Nat} {name : String} {ts rest : List Token} {t : TypeConstraint}
    (h : read (fuel + 1) (levels + 1) (.ident name :: .opening .round :: ts) = .ok (t, rest)) :
    Reads (levels + 1) (.ident name :: .opening .round :: ts) (.type t) rest := by
  obtain ⟨make, hknown⟩ | rfl | rfl | hunknown := constructor_cases name
  · rw [read_collection fuel levels ts hknown] at h
    obtain ⟨item, between, hitem, hclose, rfl⟩ := closed_eq_ok h
    rw [eq_of_expectClose hclose] at hitem
    exact .collection hknown (ihread _ _ _ _ hitem)
  · by_cases hcurly : ts.head? = some (.opening .curly)
    · obtain ⟨more, rfl⟩ := List.head?_eq_some_iff.1 hcurly
      rw [read_object] at h
      obtain ⟨fields, between, hfields, hclose, rfl⟩ := closed_eq_ok h
      rw [eq_of_expectClose hclose] at hfields
      exact .object (ihfields _ _ _ _ _ hfields)
    · rw [read_object_of_ne fuel levels hcurly] at h
      cases h
  · rw [read_optional] at h
    obtain ⟨type, between, htype, hclose, rfl⟩ := closed_eq_ok (f := id) h
    exact .optional (ihread _ _ _ _ htype) hclose
  · rw [read_unknown fuel levels ts hunknown] at h
    cases hskip : skipToClose 0 ts with
    | error failure =>
      rw [hskip] at h
      cases h
    | ok left =>
      rw [hskip] at h
      cases h
      exact .unknown hunknown hskip

theorem reads_step {levels : Nat} {ts rest : List Token} {t : TypeConstraint}
    (h : read (fuel + 1) levels ts = .ok (t, rest)) : Reads levels ts (.type t) rest := by
  cases levels with
  | zero => cases h
  | succ levels =>
    cases ts with
    | nil => cases h
    | cons token ts =>
      cases token with
      | ident name =>
        by_cases happlied : ts.head? = some (.opening .round)
        · obtain ⟨more, rfl⟩ := List.head?_eq_some_iff.1 happlied
          exact reads_of_applied ihread ihfields h
        · rw [read_bare fuel levels name happlied] at h
          cases h
          exact .bare happlied
      | _ => cases h

theorem readsFields_step {levels : Nat} {before after : Keyed (Field TypeConstraint)}
    {ts rest : List Token} (h : readFields (fuel + 1) levels before ts = .ok (after, rest)) :
    Reads levels ts (.fields before after) rest := by
  cases ts with
  | nil => cases h
  | cons token ts =>
    cases token with
    | comma => exact .comma (ihfields _ _ _ _ _ h)
    | closing b =>
      cases b with
      | curly =>
        cases h
        exact .noField
      | _ => cases h
    | ident name =>
      cases ts with
      | nil => cases h
      | cons next ts =>
        cases next with
        | assign =>
          obtain ⟨⟨type, between⟩, htype, hmore⟩ := bind_eq_ok h
          exact .field (ihread _ _ _ _ htype) (ihfields _ _ _ _ _ hmore)
        | _ => cases h
    | _ => cases h

end Grammar

/-- What is read follows the grammar. -/
theorem reads_of_read_and_readFields (fuel : Nat) :
    (∀ levels ts t rest, read fuel levels ts = .ok (t, rest) → Reads levels ts (.type t) rest) ∧
    (∀ levels before ts after rest, readFields fuel levels before ts = .ok (after, rest) →
      Reads levels ts (.fields before after) rest) := by
  induction fuel with
  | zero => exact ⟨fun _ _ _ _ h => (by cases h), fun _ _ _ _ _ h => (by cases h)⟩
  | succ fuel ih =>
    exact ⟨fun _ _ _ _ => reads_step ih.1 ih.2, fun _ _ _ _ _ => readsFields_step ih.1 ih.2⟩

theorem reads_of_read {fuel levels : Nat} {ts rest : List Token} {t : TypeConstraint}
    (h : read fuel levels ts = .ok (t, rest)) : Reads levels ts (.type t) rest :=
  (reads_of_read_and_readFields fuel).1 levels ts t rest h

/-! ### Progress -/

theorem length_lt_of_skipToClose {nesting : Nat} {ts rest : List Token}
    (h : skipToClose nesting ts = .ok rest) : rest.length < ts.length := by
  fun_induction skipToClose nesting ts with
  | case1 => cases h
  | case3 =>
    cases h
    simp
  | case4 => cases h
  | case2 nesting b more ih | case5 nesting b more ih | case6 nesting token more _ _ _ ih =>
    have := ih h
    rw [List.length_cons]
    omega

theorem length_lt_of_closeOptional {ts rest : List Token} (h : closeOptional ts = .ok rest) :
    rest.length < ts.length := by
  unfold closeOptional at h
  split at h
  · exact length_lt_of_skipToClose h
  · rw [eq_of_expectClose h]
    simp

/-- Reading consumes at least one token. -/
theorem Reads.length_lt {levels : Nat} {ts rest : List Token} {phrase : Phrase}
    (h : Reads levels ts phrase rest) : rest.length < ts.length := by
  induction h with
  | bare => simp
  | collection _ _ ih | object _ ih =>
    simp only [List.length_cons] at ih ⊢
    omega
  | optional _ closed ih =>
    have := length_lt_of_closeOptional closed
    simp only [List.length_cons]
    omega
  | unknown _ skipped =>
    have := length_lt_of_skipToClose skipped
    simp only [List.length_cons]
    omega
  | noField => simp
  | comma _ ih =>
    rw [List.length_cons]
    omega
  | field _ _ ihfirst ihmore =>
    simp only [List.length_cons]
    omega

/-! ### Levels -/

theorem depthOfAttributes_insert_le (fields : Keyed (Field TypeConstraint)) (name : String)
    (field : Field TypeConstraint) :
    depthOfAttributes (Keyed.insert fields name field) ≤
      max (depthOfAttributes fields) field.type.depth := by
  induction fields with
  | nil => simp [Keyed.insert, depthOfAttributes]
  | cons p rest ih =>
    obtain ⟨key, type, optional⟩ := p
    rw [Keyed.insert]
    split
    · simp only [depthOfAttributes]
      omega
    · simp only [depthOfAttributes]
      omega

/-- A phrase whose types are nested at most as deep as there are levels. -/
def Phrase.Within (levels : Nat) : Phrase → Prop
  | .type t => t.depth ≤ levels
  | .fields before after =>
    depthOfAttributes before ≤ levels → depthOfAttributes after ≤ levels

theorem Reads.within {levels : Nat} {ts rest : List Token} {phrase : Phrase}
    (h : Reads levels ts phrase rest) : phrase.Within levels := by
  induction h with
  | bare =>
    show depth _ ≤ _
    rw [depth_ofName]
    omega
  | collection known _ ih =>
    show depth _ ≤ _
    rw [depth_of_collection known]
    have : depth _ ≤ _ := ih
    omega
  | object _ ih =>
    show depth _ ≤ _
    have hfields : depthOfAttributes _ ≤ _ := ih (Nat.zero_le _)
    rw [depth]
    omega
  | optional _ _ ih => exact ih
  | unknown =>
    show depth _ ≤ _
    rw [depth]
    omega
  | noField => exact id
  | comma _ ih => exact ih
  | field _ _ ihfirst ihmore =>
    intro hbefore
    apply ihmore
    apply Nat.le_trans (depthOfAttributes_insert_le _ _ _)
    exact Nat.max_le.2 ⟨hbefore, ihfirst⟩

/-- What is read keeps to the levels that are left. -/
theorem depth_le_of_read {fuel levels : Nat} {ts rest : List Token} {t : TypeConstraint}
    (h : read fuel levels ts = .ok (t, rest)) : t.depth ≤ levels :=
  (reads_of_read h).within

end InfraConfig.TypeConstraint
