import InfraConfig.Reference.Occurrence

/-! The texts that traversals are read from. `Segment.Spelled` and `Traversal.Spelled` are the
grammar: a traversal is read from a text of the grammar, whatever follows it that does not go on
with it (`Traversal.read?_of_spelled`), and from no other text (`Traversal.spelled_of_read?`). So a
text is a reference as a whole exactly if it is spelled by a traversal and is no keyword
(`Reference.ofChars?_eq_some_iff`), and a token of a longer expression is the reference that its own
text is (`Reference.ofChars?_of_readToken?`). -/
namespace InfraConfig

open Text (isBlank isBlank_eq_false_of_class takeWhile_append_of_head trim trim_eq_self)

/-! ### Characters -/

/-- A character that a traversal may hold. -/
def isTraversalChar (c : Char) : Bool := isAttributeChar c || c == '.' || c == '[' || c == ']'

variable {c : Char}

theorem isBlank_of_isTraversalChar (h : isTraversalChar c = true) : isBlank c = false :=
  isBlank_eq_false_of_class (by decide +kernel) h

theorem isAttributeChar_of_isRootChar (h : isRootChar c = true) : isAttributeChar c = true := by
  simp only [isRootChar, isAttributeChar, Bool.or_eq_true] at h ⊢
  exact .inl h

theorem isRootChar_of_isRootStart (h : isRootStart c = true) : isRootChar c = true := by
  simp only [isRootStart, isRootChar, Char.isAlphanum, Bool.or_eq_true] at h ⊢
  rcases h with halpha | hunderscore
  · exact .inl (.inl (.inl halpha))
  · exact .inl (.inr hunderscore)

theorem isAttributeChar_of_isIndexChar (h : isIndexChar c = true) : isAttributeChar c = true := by
  simp only [isIndexChar, isAttributeChar, Char.isAlphanum, Bool.or_eq_true] at h ⊢
  rcases h with hdigit | hstar
  · exact .inl (.inl (.inl (.inr hdigit)))
  · exact .inr hstar

theorem isTraversalChar_of_isAttributeChar (h : isAttributeChar c = true) :
    isTraversalChar c = true := by
  simp [isTraversalChar, h]

/-! ### Accesses -/

namespace Segment

/-- The texts of accesses, with the accesses that they stand for. -/
inductive Spelled : List Segment → List Char → Prop where
  | nil : Spelled [] []
  | named {name s : List Char} {path : List Segment} (nonempty : name ≠ [])
      (chars : ∀ c ∈ name, isAttributeChar c = true) (more : Spelled path s) :
      Spelled (ofAttribute name :: path) ('.' :: (name ++ s))
  | bracketed {digits s : List Char} {path : List Segment} (nonempty : digits ≠ [])
      (chars : ∀ c ∈ digits, isIndexChar c = true) (more : Spelled path s) :
      Spelled (ofIndex digits :: path) ('[' :: (digits ++ ']' :: s))

/-- No traversal goes on at the start of a text. -/
def Ends (rest : List Char) : Prop :=
  ∀ c, rest.head? = some c → isAttributeChar c = false ∧ c ≠ '.' ∧ c ≠ '['

theorem ends_nil : Ends [] := fun _ h => by cases h

theorem Ends.append {s : List Char} (h : Ends s) (hne : s ≠ []) (rest : List Char) :
    Ends (s ++ rest) := by
  obtain ⟨c, more, rfl⟩ := List.exists_cons_of_ne_nil hne
  exact fun d hd => h d hd

theorem Spelled.isTraversalChar {path : List Segment} {s : List Char} (h : Spelled path s) :
    ∀ c ∈ s, isTraversalChar c = true := by
  induction h with
  | nil => exact fun c hc => by cases hc
  | named _ hchars _ ih =>
    intro c hc
    rcases List.mem_cons.1 hc with rfl | hc
    · rfl
    · rcases List.mem_append.1 hc with hname | hs
      · exact isTraversalChar_of_isAttributeChar (hchars c hname)
      · exact ih c hs
  | bracketed _ hchars _ ih =>
    intro c hc
    rcases List.mem_cons.1 hc with rfl | hc
    · rfl
    · rcases List.mem_append.1 hc with hdigits | hc
      · exact isTraversalChar_of_isAttributeChar
          (isAttributeChar_of_isIndexChar (hchars c hdigits))
      · rcases List.mem_cons.1 hc with rfl | hs
        · rfl
        · exact ih c hs

theorem Spelled.point_or_bracket_mem {path : List Segment} {s : List Char} (h : Spelled path s)
    (hne : path ≠ []) : '.' ∈ s ∨ '[' ∈ s := by
  cases h with
  | nil => exact absurd rfl hne
  | named => exact .inl List.mem_cons_self
  | bracketed => exact .inr List.mem_cons_self

/-- No attribute name goes on into the accesses that follow it. -/
theorem Spelled.head {path : List Segment} {s rest : List Char} (h : Spelled path s)
    (hrest : Ends rest) : ∀ c, (s ++ rest).head? = some c → isAttributeChar c = false := by
  cases h with
  | nil => exact fun c hc => (hrest c hc).1
  | named | bracketed =>
    rintro _ ⟨⟩
    decide

theorem read?_of_ends {rest : List Char} (h : Ends rest) : read? rest = none := by
  cases rest with
  | nil => rfl
  | cons c s =>
    obtain ⟨-, hpoint, hbracket⟩ := h c rfl
    rw [read?.eq_3]
    · rintro s' ⟨⟩
      exact hpoint rfl
    · rintro s' ⟨⟩
      exact hbracket rfl

theorem read?_attribute {name rest : List Char} (hne : name ≠ [])
    (hname : ∀ c ∈ name, isAttributeChar c = true)
    (hrest : ∀ c, rest.head? = some c → isAttributeChar c = false) :
    read? ('.' :: (name ++ rest)) = some (ofAttribute name, rest) := by
  obtain ⟨htake, hdrop⟩ := takeWhile_append_of_head hname hrest
  obtain ⟨c, more, rfl⟩ := List.exists_cons_of_ne_nil hne
  rw [read?, htake, hdrop]

theorem read?_index {digits : List Char} (hne : digits ≠ [])
    (hdigits : ∀ c ∈ digits, isIndexChar c = true) (rest : List Char) :
    read? ('[' :: (digits ++ ']' :: rest)) = some (ofIndex digits, rest) := by
  have hclose : ∀ c, (']' :: rest).head? = some c → isIndexChar c = false := by
    rintro _ ⟨⟩
    decide
  obtain ⟨htake, hdrop⟩ := takeWhile_append_of_head hdigits hclose
  obtain ⟨c, more, rfl⟩ := List.exists_cons_of_ne_nil hne
  rw [read?, htake, hdrop]
  rfl

theorem read?_cases {s rest : List Char} {segment : Segment}
    (h : read? s = some (segment, rest)) :
    (∃ name, name ≠ [] ∧ (∀ c ∈ name, isAttributeChar c = true) ∧ segment = ofAttribute name ∧
      s = '.' :: (name ++ rest)) ∨
    ∃ digits, digits ≠ [] ∧ (∀ c ∈ digits, isIndexChar c = true) ∧ segment = ofIndex digits ∧
      s = '[' :: (digits ++ ']' :: rest) := by
  unfold read? at h
  split at h
  · next t =>
    split at h
    · cases h
    · next hne =>
      cases h
      refine .inl ⟨_, hne, fun c hc => ?_, rfl, by rw [List.takeWhile_append_dropWhile]⟩
      exact List.all_eq_true.1 List.all_takeWhile c hc
  · next t =>
    split at h
    · cases h
    · next hne =>
      split at h
      · next hclose =>
        cases h
        refine .inr ⟨_, hne, fun c hc => ?_, rfl, ?_⟩
        · exact List.all_eq_true.1 List.all_takeWhile c hc
        · rw [← hclose, List.takeWhile_append_dropWhile]
      · cases h
  · cases h

theorem readAll_of_none {s : List Char} (h : read? s = none) : readAll s = ([], s) := by
  rw [readAll]
  split
  · rfl
  · next heq =>
    rw [h] at heq
    cases heq

theorem readAll_of_some {s rest : List Char} {segment : Segment}
    (h : read? s = some (segment, rest)) :
    readAll s = (segment :: (readAll rest).1, (readAll rest).2) := by
  rw [readAll]
  split
  · next heq =>
    rw [h] at heq
    cases heq
  · next heq =>
    rw [h] at heq
    cases heq
    rfl

theorem readAll_of_spelled {path : List Segment} {s rest : List Char} (h : Spelled path s)
    (hrest : Ends rest) : readAll (s ++ rest) = (path, rest) := by
  induction h with
  | nil => exact readAll_of_none (read?_of_ends hrest)
  | named hne hchars more ih =>
    rw [List.cons_append, List.append_assoc,
      readAll_of_some (read?_attribute hne hchars (more.head hrest)), ih]
  | bracketed hne hchars more ih =>
    rw [List.cons_append, List.append_assoc, List.cons_append,
      readAll_of_some (read?_index hne hchars _), ih]

theorem spelled_of_readAll (s : List Char) :
    ∃ text, Spelled (readAll s).1 text ∧ s = text ++ (readAll s).2 := by
  induction hn : s.length using Nat.strongRecOn generalizing s with
  | ind n ih =>
    cases hread : read? s with
    | none =>
      rw [readAll_of_none hread]
      exact ⟨[], .nil, rfl⟩
    | some found =>
      obtain ⟨segment, rest⟩ := found
      obtain ⟨text, hspelled, hrest⟩ := ih rest.length (hn ▸ length_lt_of_read? hread) rest rfl
      rw [readAll_of_some hread]
      obtain ⟨name, hne, hchars, rfl, rfl⟩ | ⟨digits, hne, hchars, rfl, rfl⟩ := read?_cases hread
      · refine ⟨'.' :: (name ++ text), .named hne hchars hspelled, ?_⟩
        rw [List.cons_append, List.append_assoc, ← hrest]
      · refine ⟨'[' :: (digits ++ ']' :: text), .bracketed hne hchars hspelled, ?_⟩
        rw [List.cons_append, List.append_assoc, List.cons_append, ← hrest]

end Segment

/-! ### Traversals -/

/-- A name that a traversal may start with. -/
def IsRoot (root : List Char) : Prop :=
  ∃ c more, root = c :: more ∧ isRootStart c = true ∧ ∀ d ∈ more, isRootChar d = true

theorem IsRoot.ne_nil {root : List Char} (h : IsRoot root) : root ≠ [] := by
  obtain ⟨c, more, rfl, -⟩ := h
  exact List.cons_ne_nil c more

theorem IsRoot.isRootChar {root : List Char} (h : IsRoot root) :
    ∀ c ∈ root, isRootChar c = true := by
  obtain ⟨c, more, rfl, hc, hmore⟩ := h
  exact List.forall_mem_cons.2 ⟨isRootChar_of_isRootStart hc, hmore⟩

namespace Traversal

/-- The text of a traversal: its root, then its accesses. -/
def Spelled (t : Traversal) (text : List Char) : Prop :=
  IsRoot t.root ∧ ∃ s, Segment.Spelled t.accesses s ∧ text = t.root ++ s

variable {t : Traversal} {text : List Char}

theorem Spelled.isTraversalChar (h : t.Spelled text) : ∀ c ∈ text, isTraversalChar c = true := by
  obtain ⟨hroot, s, hs, rfl⟩ := h
  intro c hc
  rcases List.mem_append.1 hc with hc | hc
  · exact isTraversalChar_of_isAttributeChar (isAttributeChar_of_isRootChar (hroot.isRootChar c hc))
  · exact hs.isTraversalChar c hc

theorem Spelled.ne_nil (h : t.Spelled text) : text ≠ [] := by
  obtain ⟨hroot, s, -, rfl⟩ := h
  exact List.append_ne_nil_of_left_ne_nil hroot.ne_nil s

theorem Spelled.trim_eq (h : t.Spelled text) : trim text = text :=
  trim_eq_self
    (fun c hc => isBlank_of_isTraversalChar (h.isTraversalChar c (List.mem_of_mem_head? hc)))
    (fun c hc => isBlank_of_isTraversalChar (h.isTraversalChar c (List.mem_of_mem_getLast? hc)))

/-- A text of the grammar is read as its traversal, whatever follows that does not go on with it. -/
theorem read?_of_spelled {rest : List Char} (h : t.Spelled text) (hrest : Segment.Ends rest) :
    read? (text ++ rest) = some (t, rest) := by
  obtain ⟨root, accesses⟩ := t
  obtain ⟨⟨c, more, rfl, hc, hmore⟩, s, hs, rfl⟩ := h
  have hhead : ∀ d, (s ++ rest).head? = some d → isRootChar d = false := by
    intro d hd
    cases hroot : isRootChar d with
    | false => rfl
    | true =>
      have hattribute := hs.head hrest d hd
      rw [isAttributeChar_of_isRootChar hroot] at hattribute
      cases hattribute
  obtain ⟨htake, hdrop⟩ := takeWhile_append_of_head hmore hhead
  rw [List.append_assoc, List.cons_append, read?, if_pos hc, htake, hdrop,
    Segment.readAll_of_spelled hs hrest]

/-- Whatever is read is of the grammar. -/
theorem spelled_of_read? {s rest : List Char} (h : read? s = some (t, rest)) :
    ∃ text, t.Spelled text ∧ s = text ++ rest := by
  cases s with
  | nil => cases h
  | cons c s =>
    rw [read?] at h
    split at h
    · next hc =>
      cases h
      obtain ⟨text, hspelled, htext⟩ := Segment.spelled_of_readAll (s.dropWhile isRootChar)
      refine ⟨_, ⟨⟨c, _, rfl, hc, fun d hd => ?_⟩, text, hspelled, rfl⟩, ?_⟩
      · exact List.all_eq_true.1 List.all_takeWhile d hd
      · rw [List.append_assoc, ← htext, List.cons_append, List.takeWhile_append_dropWhile]
    · cases h

end Traversal

/-! ### References -/

namespace Reference

variable {t : Traversal} {s text : List Char} {r : Reference}

/-- A text is a reference if it is a traversal, blanks at its ends aside, and no keyword. -/
theorem ofChars?_eq_some_iff :
    ofChars? s = some r ↔
      trim s ∉ keywords ∧ ∃ t : Traversal, t.Spelled (trim s) ∧ r = ofTraversal (trim s) t := by
  rw [ofChars?]
  constructor
  · intro h
    split at h
    · cases h
    · next hkeyword =>
      refine ⟨hkeyword, ?_⟩
      split at h
      · next t hread =>
        cases h
        obtain ⟨text, hspelled, htext⟩ := Traversal.spelled_of_read? hread
        rw [List.append_nil] at htext
        exact ⟨t, htext ▸ hspelled, rfl⟩
      · cases h
  · rintro ⟨hkeyword, t, hspelled, rfl⟩
    have hread := Traversal.read?_of_spelled hspelled Segment.ends_nil
    rw [List.append_nil] at hread
    simp only [if_neg hkeyword, hread]

/-- A keyword has no accesses. -/
theorem not_mem_keywords (h : t.Spelled text) (haccess : t.accesses ≠ []) : text ∉ keywords := by
  have hall : ∀ word ∈ keywords, '.' ∉ word ∧ '[' ∉ word := by decide
  obtain ⟨-, s, hs, rfl⟩ := h
  intro hmem
  obtain ⟨hpoint, hbracket⟩ := hall _ hmem
  rcases hs.point_or_bracket_mem haccess with hs | hs
  · exact hpoint (List.mem_append_right _ hs)
  · exact hbracket (List.mem_append_right _ hs)

theorem ofChars?_of_spelled (h : t.Spelled text) (haccess : t.accesses ≠ []) :
    ofChars? text = some (ofTraversal text t) := by
  rw [ofChars?_eq_some_iff, h.trim_eq]
  exact ⟨not_mem_keywords h haccess, t, h, rfl⟩

/-! ### References to local values -/

/-- A text that is read as one attribute name and is no splat. -/
def IsAttributeName (name : List Char) : Prop :=
  name ≠ [] ∧ name ≠ ['*'] ∧ ∀ c ∈ name, isAttributeChar c = true

/-- The expression that is a local value. -/
def localText (name : List Char) : List Char := localRoot ++ '.' :: name

theorem isRoot_localRoot : IsRoot localRoot :=
  ⟨'l', "ocal".toList, rfl, by decide, List.all_eq_true.1 (by decide)⟩

theorem spelled_localText {name : List Char} {path : List Segment} (h : IsAttributeName name)
    (hs : Segment.Spelled path s) :
    Traversal.Spelled ⟨localRoot, .attribute (String.ofList name) :: path⟩
      (localText name ++ s) := by
  obtain ⟨hne, hstar, hchars⟩ := h
  have hspelled := Segment.Spelled.named hne hchars hs
  rw [Segment.ofAttribute, if_neg hstar] at hspelled
  refine ⟨isRoot_localRoot, _, hspelled, ?_⟩
  rw [localText, List.append_assoc, List.cons_append]

theorem ofIndex_ne_attribute (digits : List Char) (name : String) :
    Segment.ofIndex digits ≠ .attribute name := by
  unfold Segment.ofIndex
  split
  · dsimp only
    split <;> nofun
  · nofun

/-- The text of accesses the first of which is a plain attribute. -/
theorem spelled_attribute_cases {name : String} {path : List Segment}
    (h : Segment.Spelled (.attribute name :: path) s) :
    ∃ chars rest, IsAttributeName chars ∧ name = String.ofList chars ∧
      Segment.Spelled path rest ∧ s = '.' :: (chars ++ rest) := by
  generalize hpath : Segment.attribute name :: path = accesses at h
  cases h with
  | nil => cases hpath
  | named hne hchars hmore =>
    obtain ⟨hfirst, rfl⟩ := List.cons.inj hpath
    unfold Segment.ofAttribute at hfirst
    split at hfirst
    · cases hfirst
    · next hstar =>
      cases hfirst
      exact ⟨_, _, ⟨hne, hstar, hchars⟩, rfl, hmore, rfl⟩
  | bracketed => exact absurd (List.cons.inj hpath).1.symm (ofIndex_ne_attribute _ _)

theorem ofTraversal_cases (written : List Char) (t : Traversal) :
    (∃ name path, t = ⟨localRoot, .attribute name :: path⟩ ∧
      ofTraversal written t = .localValue name path) ∨
    ofTraversal written t = .external (String.ofList written) := by
  unfold ofTraversal
  split
  · next root name path =>
    split
    · next hlocal => exact .inl ⟨name, path, by rw [hlocal], rfl⟩
    · exact .inr rfl
  · exact .inr rfl

/-- A reference is a local value, with a name and accesses, or external and kept as written. -/
theorem ofChars?_cases (h : ofChars? s = some r) :
    (∃ name path rest, r = .localValue (String.ofList name) path ∧ IsAttributeName name ∧
      Segment.Spelled path rest ∧ trim s = localText name ++ rest) ∨
    ∃ t : Traversal, r = .external (String.ofList (trim s)) ∧ t.Spelled (trim s) ∧
      ofChars? (trim s) = some r := by
  obtain ⟨hkeyword, t, hspelled, rfl⟩ := ofChars?_eq_some_iff.1 h
  obtain ⟨name, path, rfl, hr⟩ | hr := ofTraversal_cases (trim s) t
  · obtain ⟨-, text, hs, htext⟩ := hspelled
    obtain ⟨chars, rest, hname, rfl, hrest, rfl⟩ := spelled_attribute_cases hs
    refine .inl ⟨chars, path, rest, hr, hname, hrest, ?_⟩
    rw [htext, localText, List.append_assoc, List.cons_append]
  · refine .inr ⟨t, hr, hspelled, ?_⟩
    rw [ofChars?_eq_some_iff, hspelled.trim_eq]
    exact ⟨hkeyword, t, hspelled, rfl⟩

/-! ### Tokens -/

theorem readToken?_of_spelled {rest : List Char} (h : t.Spelled text) (haccess : t.accesses ≠ [])
    (hrest : Segment.Ends rest) :
    readToken? (text ++ rest) = some ⟨text, ofTraversal text t, rest⟩ := by
  obtain ⟨root, accesses⟩ := t
  obtain ⟨access, path, rfl⟩ := List.exists_cons_of_ne_nil haccess
  rw [readToken?, Traversal.read?_of_spelled h hrest]
  simp

theorem readToken?_of_not_isRootStart {c : Char} (h : isRootStart c = false) (s : List Char) :
    readToken? (c :: s) = none := by
  rw [readToken?, Traversal.read?, h, if_neg Bool.false_ne_true]

theorem spelled_of_readToken? {token : Token} (h : readToken? s = some token) :
    ∃ t : Traversal, t.Spelled token.chars ∧ t.accesses ≠ [] ∧
      token.reference = ofTraversal token.chars t := by
  unfold readToken? at h
  split at h
  · cases h
  · cases h
  · next hread =>
    cases h
    obtain ⟨text, hspelled, rfl⟩ := Traversal.spelled_of_read? hread
    exact ⟨_, by simpa using hspelled, List.cons_ne_nil _ _, rfl⟩

/-- A token is the reference that its text is by itself. -/
theorem ofChars?_of_readToken? {token : Token} (h : readToken? s = some token) :
    ofChars? token.chars = some token.reference := by
  obtain ⟨t, hspelled, haccess, hreference⟩ := spelled_of_readToken? h
  rw [hreference]
  exact ofChars?_of_spelled hspelled haccess

theorem ofChars?_of_mem_fragmentsFrom {quoting : Quoting} {before : Option Char} {chars : List Char}
    (h : .reference chars r ∈ fragmentsFrom quoting before s) : ofChars? chars = some r := by
  fun_induction fragmentsFrom quoting before s with
  | case1 => cases h
  | case2 before c s _ ih => exact ih (by simpa using h)
  | case3 before c s token htoken ih =>
    rcases List.mem_cons.1 h with heq | hmem
    · unfold Token.fragment at heq
      split at heq
      · cases heq
      · cases heq
        exact ofChars?_of_readToken? htoken
    · exact ih hmem
  | case4 quoting before c s _ ih => exact ih (by simpa using h)

/-- A reference of an interpolation is what some text is by itself. -/
theorem exists_ofChars?_of_mem_ofInterpolation {raw : List Char} (h : r ∈ ofInterpolation raw) :
    ∃ written, ofChars? written = some r := by
  unfold ofInterpolation at h
  split at h
  · next found hfound =>
    rw [List.mem_singleton.1 h]
    exact ⟨raw, hfound⟩
  · rw [references_embedded] at h
    obtain ⟨fragment, hmem, hr⟩ := List.mem_filterMap.1 h
    cases fragment with
    | text chars => cases hr
    | reference chars found =>
      cases hr
      exact ⟨chars, ofChars?_of_mem_fragmentsFrom hmem⟩

theorem exists_ofChars?_of_mem_ofText (h : r ∈ ofText s) :
    ∃ written, ofChars? written = some r := by
  obtain ⟨piece, -, hr⟩ := List.mem_flatMap.1 h
  unfold ofPiece at hr
  split at hr
  · split at hr
    · cases hr
    · exact exists_ofChars?_of_mem_ofInterpolation hr
  · cases hr

end Reference

namespace Value

variable {r : Reference}

mutual

/-- A reference of a value is what some text is by itself. -/
theorem exists_ofChars?_of_mem_allReferences : (v : Value) → r ∈ v.allReferences →
    ∃ written, Reference.ofChars? written = some r
  | .string _, h => Reference.exists_ofChars?_of_mem_ofText h
  | .list items, h => exists_ofChars?_of_mem_items items h
  | .object members, h => exists_ofChars?_of_mem_members members h
  | .null, h | .bool _, h | .number _, h => nomatch h

theorem exists_ofChars?_of_mem_items : (items : List Value) → r ∈ allReferencesOfItems items →
    ∃ written, Reference.ofChars? written = some r
  | [], h => nomatch h
  | item :: rest, h =>
    (List.mem_append.1 h).elim (exists_ofChars?_of_mem_allReferences item)
      (exists_ofChars?_of_mem_items rest)

theorem exists_ofChars?_of_mem_members : (members : List (String × Value)) →
    r ∈ allReferencesOfMembers members → ∃ written, Reference.ofChars? written = some r
  | [], h => nomatch h
  | (_, value) :: rest, h =>
    (List.mem_append.1 h).elim (exists_ofChars?_of_mem_allReferences value)
      (exists_ofChars?_of_mem_members rest)

end

end Value

end InfraConfig
