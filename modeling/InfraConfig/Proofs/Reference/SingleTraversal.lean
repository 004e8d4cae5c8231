import InfraConfig.Proofs.Reference.Canonical
import InfraConfig.Proofs.Reference.Operators
import InfraConfig.Proofs.Reference.Quoting

/-! Texts that are one traversal. Such a text is read as a reference at once, and a scan for the
references inside of it reads it again, from left to right. Both find the same
(`Reference.embedded_of_ofChars?`): if the traversal has an access, the scan passes over the blanks
in front of it, takes the longest traversal, which is all of it, and finds nothing in the blanks
behind it. A traversal without an access is a name to the scan, and a name alone is no reference. -/
namespace InfraConfig

open Text (allBlank exists_blanks_around_trim isBlank slice? slice?_append trim trimEnd
  trimEnd_append_of_allBlank trimEnd_eq_self trimStart trimStart_append_of_allBlank
  trimStart_eq_nil_iff trimStart_eq_self utf8Length utf8Length_append)

/-! ### Traversals with an access -/

/-- A text that is a traversal with at least one access. -/
def IsAccessed (text : List Char) : Prop :=
  ∃ (root : List Char) (accesses : List (List Char)), IsRoot root ∧ accesses ≠ [] ∧
    (∀ access ∈ accesses, Segment.IsAccess access) ∧ text = root ++ accesses.flatten

theorem Segment.IsAccess.ne_nil {access : List Char} (h : IsAccess access) : access ≠ [] := by
  cases h <;> exact List.cons_ne_nil _ _

theorem isAccessed_iff_spelled {text : List Char} :
    IsAccessed text ↔ ∃ t : Traversal, t.Spelled text ∧ t.accesses ≠ [] := by
  constructor
  · intro ⟨root, accesses, hroot, hne, hall, htext⟩
    obtain ⟨path, hpath⟩ := Segment.exists_spelled hall
    refine ⟨⟨root, path⟩, ⟨hroot, _, hpath, htext⟩, ?_⟩
    rintro rfl
    obtain ⟨access, rest, rfl⟩ := List.exists_cons_of_ne_nil hne
    have hempty : (access :: rest).flatten = [] := by
      generalize (access :: rest).flatten = s at hpath
      cases hpath
      rfl
    obtain ⟨hnil, -⟩ := List.append_eq_nil_iff.1 hempty
    exact (hall access List.mem_cons_self).ne_nil hnil
  · intro ⟨t, ⟨hroot, s, hs, htext⟩, hne⟩
    have hmem := hs.point_or_bracket_mem hne
    obtain ⟨accesses, hall, rfl⟩ := hs.exists_accesses
    refine ⟨t.root, accesses, hroot, ?_, hall, htext⟩
    rintro rfl
    simp at hmem

namespace Traversal.Spelled
variable {t : Traversal} {text : List Char} (h : t.Spelled text)

include h

theorem unique {other : Traversal} (hother : other.Spelled text) : t = other := by
  have hread := read?_of_spelled h Segment.ends_nil
  rw [read?_of_spelled hother Segment.ends_nil] at hread
  cases hread
  rfl

theorem isAccessed_iff : IsAccessed text ↔ t.accesses ≠ [] := by
  rw [isAccessed_iff_spelled]
  constructor
  · rintro ⟨other, hother, hne⟩
    rwa [h.unique hother]
  · exact fun hne => ⟨t, h, hne⟩

theorem eq_root (hnone : t.accesses = []) : text = t.root := by
  obtain ⟨root, accesses⟩ := t
  obtain ⟨-, s, hs, rfl⟩ := h
  subst hnone
  cases hs
  exact List.append_nil root

end Traversal.Spelled

namespace Reference

/-! ### A traversal between gaps -/

theorem embeddedFrom_texts (offset : Nat) (gap : List Char) (fragments : List Fragment) :
    embeddedFrom offset (gap.map (fun c => .text [c]) ++ fragments) =
      embeddedFrom (offset + utf8Length gap) fragments := by
  induction gap generalizing offset with
  | nil => rfl
  | cons c gap ih =>
    have hnext : offset + utf8Length (c :: gap) = offset + (c.utf8Size + 0) + utf8Length gap := by
      rw [utf8Length, Nat.add_zero, Nat.add_assoc]
    rw [hnext, ← ih]
    rfl

section Gaps
variable {t : Traversal} {text before after : List Char} (h : t.Spelled text)
  (haccess : t.accesses ≠ []) (hbefore : IsGap before) (hafter : IsGap after)
  (hlast : before.getLast?.any continues = false) (hends : Segment.Ends after)
  (hcalled : isCalled after = false)

include h haccess hbefore hafter hlast hends hcalled

theorem fragments_between_gaps :
    fragments (before ++ text ++ after) =
      before.map (fun c => .text [c]) ++
        .reference text (ofTraversal text t) :: after.map (fun c => .text [c]) := by
  have htoken := readToken?_of_spelled h haccess hends
  have hfragment : (Token.mk text (ofTraversal text t) after).fragment before.getLast? =
      .reference text (ofTraversal text t) := by
    rw [Token.fragment, hlast, hcalled]
    rfl
  have hrest : fragmentsFrom .outside text.getLast? after = after.map (fun c => .text [c]) := by
    have hgap := fragmentsFrom_gap hafter text.getLast? []
    rwa [List.append_nil, fragmentsFrom, List.append_nil] at hgap
  rw [fragments, List.append_assoc, fragmentsFrom_gap hbefore, Option.or_none,
    fragmentsFrom_token htoken, hfragment, hrest]

/-- A traversal is the only reference if nothing around it is one or goes on with it. -/
theorem embedded_between_gaps :
    embedded (before ++ text ++ after) =
      [⟨utf8Length before, utf8Length (before ++ text), ofTraversal text t⟩] := by
  have hnothing := embeddedFrom_texts (utf8Length before + utf8Length text) after []
  rw [List.append_nil, embeddedFrom] at hnothing
  rw [embedded, fragments_between_gaps h haccess hbefore hafter hlast hends hcalled,
    embeddedFrom_texts, Nat.zero_add, utf8Length_append]
  exact congrArg (_ :: ·) hnothing

end Gaps

/-! ### A traversal between blanks -/

section Blanks
variable {t : Traversal} {text before after : List Char} (hbefore : allBlank before = true)
  (hafter : allBlank after = true)

theorem isSeparator_of_mem_blanks (h : allBlank before = true) :
    ∀ c ∈ before, isSeparator c = true :=
  fun c hc => isSeparator_of_isBlank (List.all_eq_true.1 h c hc)

theorem isGap_of_allBlank (h : allBlank before = true) : IsGap before := by
  intro c hc
  obtain ⟨hroot, -, hquote, -⟩ := isSeparator_iff.1 (isSeparator_of_mem_blanks h c hc)
  exact ⟨hroot, hquote⟩

theorem any_continues_getLast?_of_allBlank (h : allBlank before = true) :
    before.getLast?.any continues = false := by
  cases hlast : before.getLast? with
  | none => rfl
  | some c =>
    obtain ⟨-, hcontinues, -⟩ :=
      isSeparator_iff.1 (isSeparator_of_mem_blanks h c (List.mem_of_mem_getLast? hlast))
    exact hcontinues

theorem isCalled_of_allBlank (h : allBlank after = true) : isCalled after = false := by
  rw [isCalled, trimStart_eq_nil_iff.2 h]
  rfl

include hbefore hafter

theorem embedded_between_blanks (h : t.Spelled text) (haccess : t.accesses ≠ []) :
    embedded (before ++ text ++ after) =
      [⟨utf8Length before, utf8Length (before ++ text), ofTraversal text t⟩] :=
  embedded_between_gaps h haccess (isGap_of_allBlank hbefore) (isGap_of_allBlank hafter)
    (any_continues_getLast?_of_allBlank hbefore) (ends_of_allBlank hafter)
    (isCalled_of_allBlank hafter)

/-- A traversal is what trimming leaves, at either end and at both. -/
theorem trims_between_blanks (h : t.Spelled text) :
    trimStart (before ++ text ++ after) = text ++ after ∧
      trimEnd (before ++ text ++ after) = before ++ text := by
  have hfirst : ∀ c, (text ++ after).head? = some c → isBlank c = false := by
    intro c hc
    rw [List.head?_append, List.head?_eq_some_head h.ne_nil] at hc
    cases hc
    exact isBlank_of_isTraversalChar (h.isTraversalChar _ (List.head_mem h.ne_nil))
  have hlast : ∀ c, (before ++ text).getLast? = some c → isBlank c = false := by
    intro c hc
    rw [List.getLast?_append, List.getLast?_eq_some_getLast h.ne_nil] at hc
    cases hc
    exact isBlank_of_isTraversalChar (h.isTraversalChar _ (List.getLast_mem h.ne_nil))
  constructor
  · rw [List.append_assoc, trimStart_append_of_allBlank hbefore, trimStart_eq_self hfirst]
  · rw [trimEnd_append_of_allBlank hafter, trimEnd_eq_self hlast]

end Blanks

/-! ### Names alone -/

theorem point_or_bracket_mem_of_readToken? {s : List Char} {token : Token}
    (h : readToken? s = some token) : '.' ∈ s ∨ '[' ∈ s := by
  obtain ⟨t, ⟨-, accesses, hs, htext⟩, haccess, -⟩ := spelled_of_readToken? h
  have hmem : ∀ c ∈ accesses, c ∈ s := by
    intro c hc
    rw [← (chars_append_rest h).1, htext]
    exact List.mem_append_left _ (List.mem_append_right _ hc)
  exact (hs.point_or_bracket_mem haccess).imp (hmem '.') (hmem '[')

/-- Where there is no access there is no reference. -/
theorem embedded_eq_nil {s : List Char} (hpoint : '.' ∉ s) (hbracket : '[' ∉ s) :
    embedded s = [] := by
  have hnone : ∀ quoting before,
      (fragmentsFrom quoting before s).filterMap Fragment.reference? = [] := by
    intro quoting before
    fun_induction fragmentsFrom quoting before s with
    | case1 => rfl
    | case2 before c s _ ih | case4 quoting before c s _ ih =>
      exact ih (mt (List.mem_cons_of_mem c) hpoint) (mt (List.mem_cons_of_mem c) hbracket)
    | case3 before c s token htoken ih =>
      exact ((point_or_bracket_mem_of_readToken? htoken).elim hpoint hbracket).elim
  exact List.map_eq_nil_iff.1 ((references_embedded s).trans (hnone .outside none))

/-- A name alone is none. -/
theorem embedded_name_between_blanks {name before after : List Char} (hname : IsRoot name)
    (hbefore : allBlank before = true) (hafter : allBlank after = true) :
    embedded (before ++ name ++ after) = [] := by
  have hchars : ∀ c ∈ before ++ name ++ after, isBlank c = true ∨ isRootChar c = true := by
    intro c hc
    rcases List.mem_append.1 hc with hc | hc
    · rcases List.mem_append.1 hc with hc | hc
      · exact .inl (List.all_eq_true.1 hbefore c hc)
      · exact .inr (hname.isRootChar c hc)
    · exact .inl (List.all_eq_true.1 hafter c hc)
  exact embedded_eq_nil (fun hmem => absurd (hchars _ hmem) (by decide))
    (fun hmem => absurd (hchars _ hmem) (by decide))

/-! ### Both readings -/

/-- A text that is read as one reference holds just this reference, from its first to its last
character that is no blank, provided that it has an access: then it does not matter whether a text
is read as a whole or scanned for references. A name alone is read as a reference, but none is found
in it. -/
theorem embedded_of_ofChars? {s : List Char} {r : Reference} (h : ofChars? s = some r) :
    (IsAccessed (trim s) →
      embedded s = [⟨utf8Length s - utf8Length (trimStart s), utf8Length (trimEnd s), r⟩] ∧
      slice? s (utf8Length s - utf8Length (trimStart s)) (utf8Length (trimEnd s)) = some (trim s) ∧
      (embedded s).map (·.reference) = ofInterpolation s) ∧
    (¬ IsAccessed (trim s) → embedded s = []) := by
  obtain ⟨before, after, hbefore, hafter, hs⟩ := exists_blanks_around_trim s
  obtain ⟨-, t, hspelled, hr⟩ := ofChars?_eq_some_iff.1 h
  have hwhole : ofInterpolation s = [r] := by simp only [ofInterpolation, h]
  generalize trim s = text at hs hspelled hr
  constructor
  · intro haccessed
    obtain ⟨hstart, hend⟩ := trims_between_blanks hbefore hafter hspelled
    have hfirst : utf8Length s - utf8Length (trimStart s) = utf8Length before := by
      rw [hs, hstart, List.append_assoc, utf8Length_append before, Nat.add_sub_cancel]
    have hembedded := embedded_between_blanks hbefore hafter hspelled
      (hspelled.isAccessed_iff.1 haccessed)
    rw [← hs, ← hr] at hembedded
    rw [← hs] at hend
    rw [hfirst, hend, hembedded]
    refine ⟨rfl, ?_, hwhole.symm⟩
    rw [hs]
    exact slice?_append before text after
  · intro hnot
    have hroot := hspelled.eq_root (not_not.1 (mt hspelled.isAccessed_iff.2 hnot))
    rw [hs, hroot]
    exact embedded_name_between_blanks hspelled.1 hbefore hafter

/-- A traversal with the name of a keyword at its root, between blanks of several bytes. -/
theorem embedded_keyword_root :
    ofChars? "\u3000true.a[0]\u00a0".toList = some (.external "true.a[0]") ∧
    IsAccessed (trim "\u3000true.a[0]\u00a0".toList) ∧
    embedded "\u3000true.a[0]\u00a0".toList = [⟨3, 12, .external "true.a[0]"⟩] ∧
    slice? "\u3000true.a[0]\u00a0".toList 3 12 = some "true.a[0]".toList := by
  have hread : ofChars? "\u3000true.a[0]\u00a0".toList = some (.external "true.a[0]") := by
    decide +kernel
  have haccessed : IsAccessed (trim "\u3000true.a[0]\u00a0".toList) := by
    have hname : Segment.IsAccess ('.' :: ['a']) :=
      .named (by simp) (List.all_eq_true.1 (by decide))
    have hindex : Segment.IsAccess ('[' :: (['0'] ++ [']'])) :=
      .bracketed (by simp) (List.all_eq_true.1 (by decide))
    refine ⟨"true".toList, [".a".toList, "[0]".toList],
      ⟨'t', "rue".toList, rfl, by decide, List.all_eq_true.1 (by decide)⟩, by simp, ?_,
      by decide +kernel⟩
    simp only [List.forall_mem_cons]
    exact ⟨hname, hindex, by simp⟩
  obtain ⟨hembedded, hslice, -⟩ := (embedded_of_ofChars? hread).1 haccessed
  have hstart : utf8Length "\u3000true.a[0]\u00a0".toList -
      utf8Length (trimStart "\u3000true.a[0]\u00a0".toList) = 3 := by decide +kernel
  have hstop : utf8Length (trimEnd "\u3000true.a[0]\u00a0".toList) = 12 := by decide +kernel
  have htrim : trim "\u3000true.a[0]\u00a0".toList = "true.a[0]".toList := by decide +kernel
  rw [hstart, hstop] at hembedded hslice
  rw [htrim] at hslice
  exact ⟨hread, haccessed, hembedded, hslice⟩

end Reference

end InfraConfig
