import InfraConfig.Text.Split

/-! Places of a text in bytes. `slice? s start stop` is the part of a text between two bytes; there
is none if the bytes do not come in this order or one of them is inside of a character
(`isSome_slice?_iff`). So a slice cuts the text in three, and the bytes are the lengths of the parts
in front (`slice?_eq_some_iff`). `splice?` puts other texts in the place of slices. -/
namespace InfraConfig.Text

theorem utf8Length_cons_pos (c : Char) (s : List Char) : 0 < utf8Length (c :: s) := by
  have := c.utf8Size_pos
  simp only [utf8Length]
  omega

/-- The length in bytes is that of the encoded text. -/
theorem utf8Length_eq_utf8ByteSize (s : List Char) :
    utf8Length s = (String.ofList s).utf8ByteSize := by
  induction s with
  | nil => rfl
  | cons c s ih =>
    rw [utf8Length, ih, ← List.singleton_append, String.ofList_append, String.utf8ByteSize_append]
    simp

/-! ### Cutting -/

/-- The text cut before a byte, unless the byte is inside of a character or behind the text. -/
def cut? : Nat → List Char → Option (List Char × List Char)
  | 0, s => some ([], s)
  | _ + 1, [] => none
  | n + 1, c :: s =>
    if c.utf8Size ≤ n + 1 then
      (cut? (n + 1 - c.utf8Size) s).map fun (front, rest) => (c :: front, rest)
    else none

theorem cut?_append (front rest : List Char) :
    cut? (utf8Length front) (front ++ rest) = some (front, rest) := by
  induction front with
  | nil => rw [utf8Length, cut?]; rfl
  | cons c front ih =>
    have hsize := c.utf8Size_pos
    obtain ⟨n, hn⟩ := Nat.exists_eq_add_of_lt (utf8Length_cons_pos c front)
    rw [Nat.zero_add] at hn
    have hle : c.utf8Size ≤ n + 1 := by rw [← hn, utf8Length]; omega
    have hrest : n + 1 - c.utf8Size = utf8Length front := by rw [← hn, utf8Length]; omega
    rw [hn, List.cons_append, cut?, if_pos hle, hrest, ih]
    rfl

theorem eq_of_cut? {n : Nat} {s front rest : List Char} (h : cut? n s = some (front, rest)) :
    s = front ++ rest ∧ utf8Length front = n := by
  induction s generalizing n front with
  | nil =>
    cases n with
    | zero =>
      cases h
      exact ⟨rfl, rfl⟩
    | succ n => cases h
  | cons c s ih =>
    cases n with
    | zero =>
      cases h
      exact ⟨rfl, rfl⟩
    | succ n =>
      rw [cut?] at h
      split at h
      · next hle =>
        simp only [Option.map_eq_some_iff, Prod.exists, Prod.mk.injEq] at h
        obtain ⟨front', rest', hcut, rfl, rfl⟩ := h
        obtain ⟨rfl, hlength⟩ := ih hcut
        refine ⟨rfl, ?_⟩
        rw [utf8Length, hlength]
        omega
      · cases h

theorem cut?_eq_some_iff {n : Nat} {s front rest : List Char} :
    cut? n s = some (front, rest) ↔ s = front ++ rest ∧ utf8Length front = n := by
  constructor
  · exact eq_of_cut?
  · intro h
    obtain ⟨rfl, rfl⟩ := h
    exact cut?_append front rest

/-! ### Slices -/

/-- The part of a text between two bytes. -/
def slice? (s : List Char) (start stop : Nat) : Option (List Char) :=
  if start ≤ stop then do
    let (_, rest) ← cut? start s
    let (middle, _) ← cut? (stop - start) rest
    some middle
  else none

variable {s middle : List Char} {start stop : Nat}

/-- A slice stands between a text that ends where it starts and one that starts where it ends. -/
theorem slice?_eq_some_iff :
    slice? s start stop = some middle ↔
      ∃ before after, s = before ++ middle ++ after ∧ utf8Length before = start ∧
        utf8Length (before ++ middle) = stop := by
  unfold slice?
  constructor
  · intro h
    split at h
    · next hle =>
      simp only [Option.bind_eq_bind, Option.bind_eq_some_iff, Prod.exists, Option.some.injEq] at h
      obtain ⟨before, rest, hbefore, middle', after, hmiddle, rfl⟩ := h
      obtain ⟨rfl, hstart⟩ := cut?_eq_some_iff.1 hbefore
      obtain ⟨rfl, hlength⟩ := cut?_eq_some_iff.1 hmiddle
      refine ⟨before, after, (List.append_assoc ..).symm, hstart, ?_⟩
      rw [utf8Length_append, hstart, hlength]
      omega
    · cases h
  · intro h
    obtain ⟨before, after, rfl, rfl, rfl⟩ := h
    have hle : utf8Length before ≤ utf8Length (before ++ middle) := by
      rw [utf8Length_append]
      omega
    have hlength : utf8Length (before ++ middle) - utf8Length before = utf8Length middle := by
      rw [utf8Length_append]
      omega
    rw [if_pos hle, List.append_assoc, cut?_append, hlength]
    show (cut? _ (middle ++ after)).bind _ = _
    rw [cut?_append]
    rfl

theorem slice?_append (before middle after : List Char) :
    slice? (before ++ middle ++ after) (utf8Length before) (utf8Length (before ++ middle)) =
      some middle :=
  slice?_eq_some_iff.2 ⟨before, after, rfl, rfl, rfl⟩

/-- A byte is the length of a front of a text if a character of the encoded text starts there or the
text ends there. -/
theorem isValid_iff {n : Nat} :
    String.Pos.Raw.IsValid (String.ofList s) ⟨n⟩ ↔
      ∃ front rest, s = front ++ rest ∧ utf8Length front = n := by
  rw [String.Pos.Raw.isValid_ofList]
  constructor
  · intro h
    obtain ⟨i, hi⟩ := h
    refine ⟨s.take i, s.drop i, (List.take_append_drop i s).symm, ?_⟩
    rw [utf8Length_eq_utf8ByteSize]
    exact hi.symm
  · intro h
    obtain ⟨front, rest, rfl, rfl⟩ := h
    refine ⟨front.length, ?_⟩
    rw [List.take_left, ← utf8Length_eq_utf8ByteSize]

/-- There is a slice between any two places of the encoded text at which a character starts or the
text ends, and only there. -/
theorem isSome_slice?_iff :
    (slice? s start stop).isSome = true ↔ start ≤ stop ∧
      String.Pos.Raw.IsValid (String.ofList s) ⟨start⟩ ∧
      String.Pos.Raw.IsValid (String.ofList s) ⟨stop⟩ := by
  rw [Option.isSome_iff_exists, isValid_iff, isValid_iff]
  constructor
  · intro h
    obtain ⟨middle, hmiddle⟩ := h
    obtain ⟨before, after, rfl, rfl, rfl⟩ := slice?_eq_some_iff.1 hmiddle
    refine ⟨?_, ⟨before, middle ++ after, List.append_assoc .., rfl⟩, ⟨_, after, rfl, rfl⟩⟩
    rw [utf8Length_append]
    omega
  · intro h
    obtain ⟨hle, ⟨front, rest, rfl, rfl⟩, ⟨front', rest', heq, rfl⟩⟩ := h
    rcases List.append_eq_append_iff.1 heq with ⟨middle, rfl, rfl⟩ | ⟨middle, rfl, rfl⟩
    · refine ⟨middle, ?_⟩
      rw [← List.append_assoc]
      exact slice?_append front middle rest'
    · have hempty : middle = [] := by
        cases middle with
        | nil => rfl
        | cons c middle =>
          have := utf8Length_cons_pos c middle
          rw [utf8Length_append] at hle
          omega
      refine ⟨[], slice?_eq_some_iff.2 ⟨front', rest, ?_, ?_, ?_⟩⟩ <;> simp [hempty]

/-! ### Parts in their places -/

/-- Something that is found between two bytes of a text. -/
structure Placed (β : Type) where
  start : Nat
  stop : Nat
  item : β

section Placed
variable {α β : Type} (old : α → List Char) (pick : α → Option β)

/-- What is picked of the parts of a text that stand one behind the other from byte `offset` on. -/
def placedFrom (offset : Nat) : List α → List (Placed β)
  | [] => []
  | part :: parts =>
    let next := offset + utf8Length (old part)
    match pick part with
    | some item => ⟨offset, next, item⟩ :: placedFrom next parts
    | none => placedFrom next parts

variable {old pick}

theorem mem_placedFrom {offset : Nat} {parts : List α} {p : Placed β} :
    p ∈ placedFrom old pick offset parts ↔
      ∃ front part back, parts = front ++ part :: back ∧ pick part = some p.item ∧
        p.start = offset + utf8Length (front.flatMap old) ∧
        p.stop = p.start + utf8Length (old part) := by
  induction parts generalizing offset with
  | nil => simp [placedFrom]
  | cons part parts ih =>
    have hnext : ∀ front : List α, offset + utf8Length (old part) + utf8Length (front.flatMap old) =
        offset + utf8Length ((part :: front).flatMap old) := by
      intro front
      rw [List.flatMap_cons, utf8Length_append, Nat.add_assoc]
    -- it is picked of the first part or of the parts behind it
    have hcons : p ∈ placedFrom old pick offset (part :: parts) ↔
        (pick part = some p.item ∧ p.start = offset ∧ p.stop = offset + utf8Length (old part)) ∨
        p ∈ placedFrom old pick (offset + utf8Length (old part)) parts := by
      obtain ⟨start, stop, item⟩ := p
      cases hpick : pick part with
      | none => simp [placedFrom, hpick]
      | some found =>
        simp only [placedFrom, hpick, List.mem_cons, Placed.mk.injEq, Option.some.injEq]
        grind
    rw [hcons, ih]
    constructor
    · intro h
      rcases h with ⟨hpick, hstart, hstop⟩ | ⟨front, part', back, rfl, hpick, hstart, hstop⟩
      · exact ⟨[], part, parts, rfl, hpick, hstart, by rw [hstop, hstart]⟩
      · exact ⟨part :: front, part', back, rfl, hpick, hstart.trans (hnext front), hstop⟩
    · intro h
      obtain ⟨front, part', back, hparts, hpick, hstart, hstop⟩ := h
      cases front with
      | nil =>
        obtain ⟨rfl, rfl⟩ := List.cons.inj hparts
        exact .inl ⟨hpick, hstart, by rw [hstop, hstart]; rfl⟩
      | cons q front =>
        obtain ⟨rfl, rfl⟩ := List.cons.inj hparts
        exact .inr ⟨front, part', back, rfl, hpick, hstart.trans (hnext front).symm, hstop⟩

theorem placedFrom_append (offset : Nat) (front back : List α) :
    placedFrom old pick offset (front ++ back) =
      placedFrom old pick offset front ++
        placedFrom old pick (offset + utf8Length (front.flatMap old)) back := by
  induction front generalizing offset with
  | nil => rfl
  | cons part front ih =>
    rw [List.flatMap_cons, utf8Length_append, ← Nat.add_assoc]
    simp only [List.cons_append, placedFrom, ih]
    split <;> rfl

theorem placedFrom_eq_nil_iff {offset : Nat} {parts : List α} :
    placedFrom old pick offset parts = [] ↔ ∀ part ∈ parts, pick part = none := by
  induction parts generalizing offset with
  | nil => simp [placedFrom]
  | cons part parts ih =>
    unfold placedFrom
    cases hpick : pick part with
    | none => simp [hpick, ih]
    | some item => simp [hpick]

theorem map_item_placedFrom (offset : Nat) (parts : List α) :
    (placedFrom old pick offset parts).map Placed.item = parts.filterMap pick := by
  induction parts generalizing offset with
  | nil => rfl
  | cons part parts ih =>
    unfold placedFrom
    cases hpick : pick part with
    | none => simp [hpick, ih]
    | some item => simp [hpick, ih]

/-- Of two places one ends before the other starts. -/
theorem pairwise_placedFrom (offset : Nat) (parts : List α) :
    (placedFrom old pick offset parts).Pairwise fun a b => a.stop ≤ b.start := by
  induction parts generalizing offset with
  | nil => exact .nil
  | cons part parts ih =>
    have hrest := ih (offset + utf8Length (old part))
    unfold placedFrom
    cases pick part with
    | none => exact hrest
    | some item =>
      refine .cons ?_ hrest
      intro p hp
      obtain ⟨front, -, -, -, -, hstart, -⟩ := mem_placedFrom.1 hp
      show offset + utf8Length (old part) ≤ p.start
      omega

theorem placedFrom_bind {γ : Type} (f : β → Option γ) (offset : Nat) (parts : List α) :
    placedFrom old (fun part => (pick part).bind f) offset parts =
      (placedFrom old pick offset parts).filterMap fun p => (f p.item).map (⟨p.start, p.stop, ·⟩) := by
  induction parts generalizing offset with
  | nil => rfl
  | cons part parts ih =>
    unfold placedFrom
    cases pick part with
    | none => exact ih _
    | some item =>
      simp only [Option.bind_some, List.filterMap_cons, ih]
      cases f item <;> rfl

end Placed

/-! ### Replacing slices -/

/-- The text from a byte on, with other texts in the place of slices. -/
def splice? (s : List Char) (cursor : Nat) : List (Placed (List Char)) → Option (List Char)
  | [] => slice? s cursor (utf8Length s)
  | edit :: edits => do
    let kept ← slice? s cursor edit.start
    let rest ← splice? s edit.stop edits
    some (kept ++ edit.item ++ rest)

section Splice
variable {α : Type} (old : α → List Char) (new : α → Option (List Char))

theorem splice?_placedFrom (parts : List α) (before kept : List Char) :
    splice? (before ++ kept ++ parts.flatMap old) (utf8Length before)
        (placedFrom old new (utf8Length (before ++ kept)) parts) =
      some (kept ++ parts.flatMap fun part => (new part).getD (old part)) := by
  induction parts generalizing before kept with
  | nil =>
    rw [placedFrom, splice?, List.flatMap_nil, List.append_nil, List.flatMap_nil, List.append_nil]
    have hslice := slice?_append before kept []
    rwa [List.append_nil] at hslice
  | cons part parts ih =>
    have hnext : utf8Length (before ++ kept) + utf8Length (old part) =
        utf8Length (before ++ kept ++ old part) := (utf8Length_append ..).symm
    rw [List.flatMap_cons, List.flatMap_cons, placedFrom, hnext]
    cases hnew : new part with
    | none =>
      have hrest := ih before (kept ++ old part)
      simpa only [List.append_assoc, Option.getD_none] using hrest
    | some text =>
      have hkept := slice?_append before kept (old part ++ parts.flatMap old)
      have hrest := ih (before ++ kept ++ old part) []
      simp only [List.append_nil, List.nil_append] at hrest
      rw [← List.append_assoc (before ++ kept)] at hkept
      simp only [splice?, ← List.append_assoc (before ++ kept), hkept, hrest]
      simp

/-- Parts of a text that are replaced at their bytes are replaced one by one. -/
theorem splice?_parts (parts : List α) :
    splice? (parts.flatMap old) 0 (placedFrom old new 0 parts) =
      some (parts.flatMap fun part => (new part).getD (old part)) :=
  splice?_placedFrom old new parts [] []

end Splice

end InfraConfig.Text
