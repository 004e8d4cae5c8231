import InfraConfig.Proofs.Reference.Grammar
import InfraConfig.Proofs.Text.Slice

/-! Masked copies of compound expressions. In the masked copy of an expression a blank stands in the
place of each byte that is quoted. A traversal is read from the copy as from the expression, since no
traversal holds a quote (`Reference.readToken?_mask`). So the references of an expression, which are
read with an eye on the quotes, are those that a plain scan of the copy finds, at the same bytes
(`Reference.embedded_eq_scan`). -/
namespace InfraConfig

open Text (trimStart)

namespace Quoting

/-- A copy of a text with a blank for each byte of what is quoted. The quotes themselves stay. -/
def mask : Quoting → List Char → List Char
  | _, [] => []
  | .outside, c :: s => c :: mask (Quoting.outside.next c) s
  | quoting, c :: s =>
    (if quoting.next c = .outside then [c] else List.replicate c.utf8Size ' ') ++
      mask (quoting.next c) s

theorem next_outside {c : Char} (h : c ≠ '"') : Quoting.outside.next c = .outside := if_neg h

theorem mask_outside_cons (c : Char) (s : List Char) :
    mask .outside (c :: s) = c :: mask (Quoting.outside.next c) s := by
  rw [mask]

theorem mask_cons_of_ne {quoting : Quoting} (h : quoting ≠ .outside) (c : Char) (s : List Char) :
    mask quoting (c :: s) =
      (if quoting.next c = .outside then [c] else List.replicate c.utf8Size ' ') ++
        mask (quoting.next c) s := by
  cases quoting with
  | outside => exact absurd rfl h
  | inside => rfl
  | escaped => rfl

/-- Only the closing quote leads out of a quoted text. -/
theorem eq_quote_of_next {quoting : Quoting} {c : Char} (h : quoting ≠ .outside)
    (hnext : quoting.next c = .outside) : c = '"' := by
  cases quoting with
  | outside => exact absurd rfl h
  | inside =>
    rw [next] at hnext
    split at hnext
    · cases hnext
    · split at hnext
      · assumption
      · cases hnext
  | escaped => cases hnext

theorem head?_mask (s : List Char) : (mask .outside s).head? = s.head? := by
  cases s with
  | nil => rfl
  | cons c s => rw [mask_outside_cons]; rfl

/-- A text without quotes is not masked. -/
theorem mask_append {front : List Char} (h : '"' ∉ front) (rest : List Char) :
    mask .outside (front ++ rest) = front ++ mask .outside rest := by
  induction front with
  | nil => rfl
  | cons c front ih =>
    obtain ⟨hc, hfront⟩ := not_or.1 (mt List.mem_cons.2 h)
    rw [List.cons_append, mask_outside_cons, next_outside (Ne.symm hc), ih hfront]
    rfl

variable {p : Char → Bool} (hp : p '"' = false)

include hp in
theorem takeWhile_mask (s : List Char) : (mask .outside s).takeWhile p = s.takeWhile p := by
  induction s with
  | nil => rfl
  | cons c s ih =>
    rw [mask_outside_cons]
    by_cases hc : p c = true
    · have hquote : c ≠ '"' := by
        intro heq
        rw [heq, hp] at hc
        cases hc
      rw [next_outside hquote, List.takeWhile_cons_of_pos hc, List.takeWhile_cons_of_pos hc, ih]
    · rw [List.takeWhile_cons_of_neg hc, List.takeWhile_cons_of_neg hc]

include hp in
theorem dropWhile_mask (s : List Char) :
    (mask .outside s).dropWhile p = mask .outside (s.dropWhile p) := by
  induction s with
  | nil => rfl
  | cons c s ih =>
    by_cases hc : p c = true
    · have hquote : c ≠ '"' := by
        intro heq
        rw [heq, hp] at hc
        cases hc
      rw [mask_outside_cons, next_outside hquote, List.dropWhile_cons_of_pos hc,
        List.dropWhile_cons_of_pos hc, ih]
    · rw [List.dropWhile_cons_of_neg hc, mask_outside_cons, List.dropWhile_cons_of_neg hc]

end Quoting

open Quoting (mask mask_outside_cons takeWhile_mask dropWhile_mask)

/-- An access is read from the masked copy as from the text. -/
theorem Segment.read?_mask (s : List Char) :
    read? (mask .outside s) = (read? s).map fun (segment, rest) => (segment, mask .outside rest) := by
  cases s with
  | nil => rfl
  | cons c s =>
    by_cases hpoint : c = '.'
    · subst hpoint
      rw [mask_outside_cons]
      show read? ('.' :: mask .outside s) = _
      rw [read?, read?, takeWhile_mask (by decide), dropWhile_mask (by decide)]
      split <;> rfl
    · by_cases hbracket : c = '['
      · subst hbracket
        rw [mask_outside_cons]
        show read? ('[' :: mask .outside s) = _
        rw [read?, read?, takeWhile_mask (by decide), dropWhile_mask (by decide)]
        split
        · rfl
        · cases hrest : s.dropWhile isIndexChar with
          | nil => rfl
          | cons d rest =>
            rw [mask_outside_cons]
            by_cases hclose : d = ']'
            · subst hclose
              rfl
            · simp [hclose]
      · rw [mask_outside_cons, read?.eq_3, read?.eq_3]
        all_goals simp [hpoint, hbracket]

theorem Segment.readAll_mask (s : List Char) :
    readAll (mask .outside s) = ((readAll s).1, mask .outside (readAll s).2) := by
  induction hn : s.length using Nat.strongRecOn generalizing s with
  | ind n ih =>
    have hread := read?_mask s
    cases hfound : read? s with
    | none =>
      rw [hfound] at hread
      rw [readAll_of_none hread, readAll_of_none hfound]
    | some found =>
      obtain ⟨segment, rest⟩ := found
      rw [hfound] at hread
      rw [readAll_of_some hread, readAll_of_some hfound,
        ih rest.length (hn ▸ length_lt_of_read? hfound) rest rfl]

theorem Traversal.read?_mask (s : List Char) :
    read? (mask .outside s) = (read? s).map fun (t, rest) => (t, mask .outside rest) := by
  cases s with
  | nil => rfl
  | cons c s =>
    rw [mask_outside_cons, read?, read?]
    by_cases hc : isRootStart c = true
    · have hquote : c ≠ '"' := by
        intro heq
        subst heq
        cases hc
      rw [if_pos hc, if_pos hc, Quoting.next_outside hquote, takeWhile_mask (by decide),
        dropWhile_mask (by decide), Segment.readAll_mask]
      rfl
    · rw [if_neg hc, if_neg hc]
      rfl

namespace Reference

theorem Traversal.quote_not_mem {t : Traversal} {text : List Char} (h : t.Spelled text) :
    '"' ∉ text := by
  intro hmem
  exact absurd (h.isTraversalChar _ hmem) (by decide)

theorem readToken?_of_read? {t : Traversal} {text rest : List Char}
    (h : Traversal.read? (text ++ rest) = some (t, rest)) :
    readToken? (text ++ rest) =
      if t.accesses = [] then none else some ⟨text, ofTraversal text t, rest⟩ := by
  obtain ⟨root, accesses⟩ := t
  rw [readToken?, h]
  cases accesses with
  | nil => rfl
  | cons access path => simp

/-- A token is read from the masked copy as from the text. -/
theorem readToken?_mask (s : List Char) :
    readToken? (mask .outside s) =
      (readToken? s).map fun token => { token with rest := mask .outside token.rest } := by
  have hmask := Traversal.read?_mask s
  cases hread : Traversal.read? s with
  | none =>
    rw [hread] at hmask
    rw [readToken?, readToken?, hread, hmask]
    rfl
  | some found =>
    obtain ⟨t, rest⟩ := found
    obtain ⟨text, hspelled, rfl⟩ := Traversal.spelled_of_read? hread
    rw [hread, Quoting.mask_append (Traversal.quote_not_mem hspelled)] at hmask
    rw [Quoting.mask_append (Traversal.quote_not_mem hspelled), readToken?_of_read? hmask,
      readToken?_of_read? hread]
    split <;> rfl

theorem isCalled_mask (s : List Char) : isCalled (mask .outside s) = isCalled s := by
  rw [isCalled, isCalled, trimStart, trimStart, dropWhile_mask (by decide), Quoting.head?_mask]

/-- The fragments of a text that is not quoted anywhere. -/
def scan : Option Char → List Char → List Fragment
  | _, [] => []
  | before, c :: s =>
    match _h : readToken? (c :: s) with
    | none => .text [c] :: scan (some c) s
    | some token => token.fragment before :: scan token.chars.getLast? token.rest
termination_by _ s => s.length
decreasing_by
  · simp
  · exact (chars_append_rest ‹_›).2

theorem scan_token {before : Option Char} {s : List Char} {token : Token}
    (h : readToken? s = some token) :
    scan before s = token.fragment before :: scan token.chars.getLast? token.rest := by
  cases s with
  | nil => cases h
  | cons c s =>
    rw [scan]
    split
    · next heq =>
      rw [h] at heq
      cases heq
    · next heq =>
      rw [h] at heq
      cases heq
      rfl

theorem scan_char {before : Option Char} {c : Char} {s : List Char}
    (h : readToken? (c :: s) = none) : scan before (c :: s) = .text [c] :: scan (some c) s := by
  rw [scan]
  split
  · rfl
  · next heq =>
    rw [h] at heq
    cases heq

theorem embeddedFrom_scan_blanks (offset n : Nat) (before : Option Char) (s : List Char) :
    embeddedFrom offset (scan before (List.replicate (n + 1) ' ' ++ s)) =
      embeddedFrom (offset + (n + 1)) (scan (some ' ') s) := by
  induction n generalizing offset before with
  | zero =>
    have hnone := readToken?_of_not_isRootStart (by decide : isRootStart ' ' = false) s
    show embeddedFrom offset (scan before (' ' :: s)) = _
    rw [scan_char hnone]
    rfl
  | succ n ih =>
    have hnone := readToken?_of_not_isRootStart (by decide : isRootStart ' ' = false)
      (List.replicate (n + 1) ' ' ++ s)
    show embeddedFrom offset (scan before (' ' :: (List.replicate (n + 1) ' ' ++ s))) = _
    rw [scan_char hnone]
    show embeddedFrom (offset + 1) _ = _
    rw [ih, Nat.add_assoc, Nat.add_comm 1]

/-- Reading an expression with its quotes finds what a reading of the masked copy finds, at the same
bytes. -/
theorem embeddedFrom_fragmentsFrom (quoting : Quoting) (before other : Option Char) (s : List Char)
    (offset : Nat) (h : quoting = .outside → before = other) :
    embeddedFrom offset (fragmentsFrom quoting before s) =
      embeddedFrom offset (scan other (mask quoting s)) := by
  fun_induction fragmentsFrom quoting before s generalizing offset other with
  | case1 =>
    rw [mask, scan]
  | case2 before c s hnone ih =>
    have hmask := readToken?_mask (c :: s)
    rw [hnone, mask_outside_cons] at hmask
    rw [mask_outside_cons, scan_char hmask]
    exact ih (some c) _ fun _ => rfl
  | case3 before c s token htoken ih =>
    have hmask := readToken?_mask (c :: s)
    rw [htoken] at hmask
    have hfragment : ({ token with rest := mask .outside token.rest } : Token).fragment other =
        token.fragment before := by
      rw [Token.fragment, Token.fragment, isCalled_mask, h rfl]
    rw [scan_token hmask, hfragment]
    have hrest := fun next => ih token.chars.getLast? next fun _ => rfl
    cases hshape : token.fragment before with
    | text chars => exact hrest _
    | reference chars r => exact congrArg (_ :: ·) (hrest _)
  | case4 quoting before c s hquoting ih =>
    rw [Quoting.mask_cons_of_ne hquoting]
    split
    · next hnext =>
      have hnone : readToken? (c :: mask (quoting.next c) s) = none := by
        rw [Quoting.eq_quote_of_next hquoting hnext]
        exact readToken?_of_not_isRootStart (by decide) _
      show _ = embeddedFrom offset (scan other (c :: mask (quoting.next c) s))
      rw [scan_char hnone]
      exact ih (some c) _ fun _ => rfl
    · next hnext =>
      obtain ⟨n, hn⟩ := Nat.exists_eq_add_of_lt c.utf8Size_pos
      rw [Nat.zero_add] at hn
      rw [hn, embeddedFrom_scan_blanks, ← hn]
      exact ih (some ' ') _ fun heq => absurd heq hnext

/-- The references of an expression are those of its masked copy. -/
theorem embedded_eq_scan (s : List Char) :
    embedded s = embeddedFrom 0 (scan none (mask .outside s)) :=
  embeddedFrom_fragmentsFrom .outside none none s 0 fun _ => rfl

end Reference

end InfraConfig
