import InfraConfig.Proofs.Reference.Grammar
import Mathlib

/-! The written form of a reference. A text is read as a reference exactly if it is a root followed
by accesses, blanks at its ends aside, and no keyword. What is read may have been written in several
ways: an index with leading zeros, a star for an index, an index that is too great to be kept. The
written form is one of these ways, and reading it gives the same reference again
(`Reference.isSome_parse?_iff_and_parse?_text`). -/
namespace InfraConfig

open Text (trim)

/-! ### Texts of accesses -/

namespace Segment

/-- The text of one access: a point and a name, or digits and stars between brackets. -/
inductive IsAccess : List Char → Prop where
  | named {name : List Char} (nonempty : name ≠ [])
      (chars : ∀ c ∈ name, isAttributeChar c = true) : IsAccess ('.' :: name)
  | bracketed {digits : List Char} (nonempty : digits ≠ [])
      (chars : ∀ c ∈ digits, isIndexChar c = true) : IsAccess ('[' :: (digits ++ [']']))

variable {path : List Segment} {s : List Char}

theorem Spelled.exists_accesses (h : Spelled path s) :
    ∃ accesses : List (List Char), (∀ access ∈ accesses, IsAccess access) ∧
      s = accesses.flatten := by
  induction h with
  | nil => exact ⟨[], nofun, rfl⟩
  | @named name _ _ hne hchars _ ih =>
    obtain ⟨accesses, hall, rfl⟩ := ih
    exact ⟨('.' :: name) :: accesses, List.forall_mem_cons.2 ⟨.named hne hchars, hall⟩, rfl⟩
  | @bracketed digits _ _ hne hchars _ ih =>
    obtain ⟨accesses, hall, rfl⟩ := ih
    refine ⟨('[' :: (digits ++ [']'])) :: accesses,
      List.forall_mem_cons.2 ⟨.bracketed hne hchars, hall⟩, ?_⟩
    rw [List.flatten_cons, List.cons_append, List.append_assoc, List.singleton_append]

theorem exists_spelled {accesses : List (List Char)} (h : ∀ access ∈ accesses, IsAccess access) :
    ∃ path, Spelled path accesses.flatten := by
  induction accesses with
  | nil => exact ⟨[], .nil⟩
  | cons access rest ih =>
    obtain ⟨haccess, hrest⟩ := List.forall_mem_cons.1 h
    obtain ⟨path, hpath⟩ := ih hrest
    rw [List.flatten_cons]
    cases haccess with
    | named hne hchars => exact ⟨_, .named hne hchars hpath⟩
    | bracketed hne hchars =>
      rw [List.cons_append, List.append_assoc, List.singleton_append]
      exact ⟨_, .bracketed hne hchars hpath⟩

/-! ### The written form of accesses -/

theorem ofIndex_cases (digits : List Char) :
    (∃ n ≤ maxIndex, ofIndex digits = .index n) ∨ ofIndex digits = .splat := by
  unfold ofIndex
  split
  · dsimp only
    split
    · next hle => exact .inl ⟨_, hle, rfl⟩
    · exact .inr rfl
  · exact .inr rfl

/-- An index that is not too great is read back from its digits. -/
theorem ofIndex_toDigits {n : Nat} (h : n ≤ maxIndex) : ofIndex (Nat.toDigits 10 n) = .index n := by
  have hdigits : (Nat.toDigits 10 n).all Char.isDigit = true :=
    List.all_eq_true.2 fun c hc => Nat.isDigit_of_mem_toDigits (by decide) (by decide) hc
  have hvalue : (Nat.toDigits 10 n).foldl (fun n c => n * 10 + (c.toNat - '0'.toNat)) 0 = n := by
    have hcore := Nat.ofDigitChars_ten_toDigits (n := n)
    simpa only [Nat.ofDigitChars, Nat.mul_comm 10] using hcore
  rw [ofIndex, if_pos hdigits, hvalue]
  exact if_pos h

theorem isIndexChar_of_mem_toDigits {n : Nat} : ∀ c ∈ Nat.toDigits 10 n, isIndexChar c = true := by
  intro c hc
  have hdigit := Nat.isDigit_of_mem_toDigits (by decide) (by decide) hc
  rw [isIndexChar, hdigit, Bool.true_or]

/-- The written form of a splat stands for one. -/
theorem Spelled.splat (h : Spelled path s) :
    Spelled (.splat :: path) (Segment.splat.chars ++ s) := by
  have hstar : Spelled (ofIndex ['*'] :: path) ('[' :: (['*'] ++ ']' :: s)) :=
    .bracketed (List.cons_ne_nil _ _) (List.all_eq_true.1 (by decide)) h
  exact hstar

/-- Accesses that are read from some text are read from their written form. -/
theorem Spelled.written (h : Spelled path s) : Spelled path (path.flatMap Segment.chars) := by
  induction h with
  | nil => exact .nil
  | @named name _ path hne hchars _ ih =>
    rw [List.flatMap_cons]
    by_cases hstar : name = ['*']
    · rw [hstar]
      exact ih.splat
    · have hname : ofAttribute name = .attribute (String.ofList name) := if_neg hstar
      have hwritten := Spelled.named hne hchars ih
      rw [hname] at hwritten ⊢
      rwa [Segment.chars, String.toList_ofList]
  | @bracketed digits _ path _ _ _ ih =>
    rw [List.flatMap_cons]
    obtain ⟨n, hn, hindex⟩ | hsplat := ofIndex_cases digits
    · have hdigits : ∀ c ∈ Nat.toDigits 10 n, isIndexChar c = true := isIndexChar_of_mem_toDigits
      have hwritten := Spelled.bracketed Nat.toDigits_ne_nil hdigits ih
      rw [ofIndex_toDigits hn] at hwritten
      rw [hindex, Segment.chars, List.cons_append, List.cons_append, List.append_assoc,
        List.singleton_append]
      exact hwritten
    · rw [hsplat]
      exact ih.splat

end Segment

/-! ### Texts of traversals -/

/-- A text that is a traversal: a root, followed by any number of accesses. -/
def IsTraversal (text : List Char) : Prop :=
  ∃ (root : List Char) (accesses : List (List Char)), IsRoot root ∧
    (∀ access ∈ accesses, Segment.IsAccess access) ∧ text = root ++ accesses.flatten

theorem isTraversal_iff_spelled {text : List Char} :
    IsTraversal text ↔ ∃ t : Traversal, t.Spelled text := by
  constructor
  · intro ⟨root, accesses, hroot, hall, htext⟩
    obtain ⟨path, hpath⟩ := Segment.exists_spelled hall
    exact ⟨⟨root, path⟩, hroot, _, hpath, htext⟩
  · intro ⟨t, hroot, s, hs, htext⟩
    obtain ⟨accesses, hall, rfl⟩ := hs.exists_accesses
    exact ⟨t.root, accesses, hroot, hall, htext⟩

namespace Reference

theorem isSome_ofChars?_iff {s : List Char} :
    (ofChars? s).isSome = true ↔ IsTraversal (trim s) ∧ trim s ∉ keywords := by
  rw [isTraversal_iff_spelled]
  constructor
  · intro h
    obtain ⟨r, hr⟩ := Option.isSome_iff_exists.1 h
    obtain ⟨hkeyword, t, hspelled, -⟩ := ofChars?_eq_some_iff.1 hr
    exact ⟨⟨t, hspelled⟩, hkeyword⟩
  · intro ⟨⟨t, hspelled⟩, hkeyword⟩
    exact Option.isSome_iff_exists.2
      ⟨_, ofChars?_eq_some_iff.2 ⟨hkeyword, t, hspelled, rfl⟩⟩

/-- A reference is read back from its written form. -/
theorem ofChars?_chars {s : List Char} {r : Reference} (h : ofChars? s = some r) :
    ofChars? r.chars = some r := by
  obtain ⟨name, path, rest, rfl, hname, hspelled, -⟩ | ⟨t, hr, -, hself⟩ := ofChars?_cases h
  · have htext := spelled_localText hname hspelled.written
    have hread := ofChars?_of_spelled htext (List.cons_ne_nil _ _)
    have htraversal : ofTraversal (localText name ++ path.flatMap Segment.chars)
        ⟨localRoot, .attribute (String.ofList name) :: path⟩ =
          .localValue (String.ofList name) path := by
      rw [ofTraversal, if_pos rfl]
    rw [htraversal, localText] at hread
    rwa [chars, String.toList_ofList]
  · have hchars : r.chars = trim s := by rw [hr, chars, String.toList_ofList]
    rwa [hchars]

/-- A text is read as a reference if it is a traversal and no keyword, blanks at its ends aside; and
every reference that is read is read back from its written form. -/
theorem isSome_parse?_iff_and_parse?_text (s : String) :
    ((parse? s).isSome = true ↔ IsTraversal (trim s.toList) ∧ trim s.toList ∉ keywords) ∧
      ∀ r, parse? s = some r → parse? r.text = some r := by
  refine ⟨isSome_ofChars?_iff, fun r h => ?_⟩
  rw [parse?, text, String.toList_ofList]
  exact ofChars?_chars h

/-- Leading zeros are dropped, and whatever stands for every item is written as a star. -/
theorem parse?_text_mixed_accesses :
    parse? " local.a[007].b.*[99999999999999999999][1*]" =
        some (.localValue "a" [.index 7, .attribute "b", .splat, .splat, .splat]) ∧
      (Reference.localValue "a" [.index 7, .attribute "b", .splat, .splat, .splat]).text =
        "local.a[7].b[*][*][*]" ∧
      parse? "local.a[7].b[*][*][*]" =
        some (.localValue "a" [.index 7, .attribute "b", .splat, .splat, .splat]) := by
  have hread : parse? " local.a[007].b.*[99999999999999999999][1*]" =
      some (.localValue "a" [.index 7, .attribute "b", .splat, .splat, .splat]) := by cbv
  have htext : (Reference.localValue "a"
      [.index 7, .attribute "b", .splat, .splat, .splat]).text = "local.a[7].b[*][*][*]" := by
    decide +kernel
  have hback :=
    (isSome_parse?_iff_and_parse?_text " local.a[007].b.*[99999999999999999999][1*]").2 _ hread
  rw [htext] at hback
  exact ⟨hread, htext, hback⟩

end Reference

end InfraConfig
