/-! Character classes given by a table of ranges. A class of a Unicode property is a list of
inclusive ranges of code points; `inRanges` is membership in it. -/
namespace InfraConfig.Text

/-- Whether the code point of `c` lies in one of the inclusive ranges. -/
def inRanges (table : List (Nat × Nat)) (c : Char) : Bool :=
  table.any fun range => range.1 ≤ c.toNat && c.toNat ≤ range.2

theorem inRanges_iff {table : List (Nat × Nat)} {c : Char} :
    inRanges table c = true ↔ ∃ r ∈ table, r.1 ≤ c.toNat ∧ c.toNat ≤ r.2 := by
  simp [inRanges]

theorem inRanges_append (a b : List (Nat × Nat)) (c : Char) :
    inRanges (a ++ b) c = (inRanges a c || inRanges b c) := by
  simp [inRanges]

/-- Whether no ranges of two tables meet. -/
def apart (a b : List (Nat × Nat)) : Bool :=
  a.all fun r => b.all fun s => Nat.blt r.2 s.1 || Nat.blt s.2 r.1

theorem inRanges_eq_false_of_apart {a b : List (Nat × Nat)} {c : Char} (h : apart a b = true)
    (hc : inRanges a c = true) : inRanges b c = false := by
  obtain ⟨r, hr, hlow, hhigh⟩ := inRanges_iff.1 hc
  rw [Bool.eq_false_iff, Ne, inRanges_iff]
  intro ⟨s, hs, hfirst, hlast⟩
  have hmeet := List.all_eq_true.1 (List.all_eq_true.1 h r hr) s hs
  simp only [Bool.or_eq_true, Nat.blt_eq] at hmeet
  omega

end InfraConfig.Text
