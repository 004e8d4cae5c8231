import InfraConfig.Block.Output
import InfraConfig.Proofs.Reference.Grammar
import Mathlib.Data.List.TakeWhile

/-! What an output depends on. Every reference of its value has a key, and the keys that are
dependencies are kept (`dependencyOf_mem_iff`). A key that is cut at an index is one; a key in which
a star is left is none, so that a reference is lost by a splat that is written with a point
(`stem_retained_iff`). An entry of `depends_on` that is a bare reference is kept as written, without
its key being taken: it names what the same reference names in an interpolation only if its key is
the text itself, or no dependency (`bare_entry_iff`). -/
namespace InfraConfig

open Text (allBlank trim)
open Template (Piece)
open Reference (localRoot localText IsAttributeName)

/-! ### Stems -/

/-- An access by an attribute name. -/
def Segment.isAttribute : Segment → Bool
  | .attribute _ => true
  | _ => false

/-- The front of a traversal up to its first index or splat. -/
def Traversal.stem (t : Traversal) : List Char :=
  t.root ++ (t.accesses.takeWhile Segment.isAttribute).flatMap Segment.chars

namespace Reference

/-- The traversal that a reference is. -/
def traversal : Reference → Traversal
  | .localValue name path => ⟨localRoot, .attribute name :: path⟩
  | .external written =>
    match Traversal.read? written.toList with
    | some (t, _) => t
    | none => ⟨written.toList, []⟩

/-- What a reference refers to: the local value, or the text up to the first index or splat. -/
def stem : Reference → String
  | .localValue name _ => "local." ++ name
  | .external written => String.ofList (external written).traversal.stem

/-- Whether the first access is by a plain attribute name. -/
def startsPlain (r : Reference) : Bool :=
  match r.traversal.accesses with
  | .attribute name :: _ => !name.toList.contains '*'
  | _ => false

/-- Whether a star stands before the first bracket of an external reference. -/
def isStarred : Reference → Bool
  | .localValue _ _ => false
  | .external written => (written.toList.takeWhile (· ≠ '[')).contains '*'

end Reference

namespace Segment

theorem isAttribute_ofIndex (digits : List Char) : (ofIndex digits).isAttribute = false := by
  unfold ofIndex
  split
  · dsimp only
    split <;> rfl
  · rfl

theorem takeWhile_named {name : List Char} (h : ∀ c ∈ name, isAttributeChar c = true)
    (s : List Char) :
    ('.' :: (name ++ s)).takeWhile (· ≠ '[') = '.' :: (name ++ s.takeWhile (· ≠ '[')) := by
  rw [List.takeWhile_cons_of_pos (by decide), List.takeWhile_append_of_pos]
  intro c hc
  rw [decide_eq_true_eq]
  rintro rfl
  exact absurd (h _ hc) (by decide)

variable {path : List Segment} {s : List Char}

theorem Spelled.char_before_bracket (h : Spelled path s) :
    ∀ c ∈ s.takeWhile (· ≠ '['), isAttributeChar c = true ∨ c = '.' := by
  induction h with
  | nil => exact fun c hc => by cases hc
  | named _ hchars _ ih =>
    rw [takeWhile_named hchars]
    intro c hc
    rcases List.mem_cons.1 hc with hpoint | hc
    · exact .inr hpoint
    · rcases List.mem_append.1 hc with hname | hmore
      · exact .inl (hchars c hname)
      · exact ih c hmore
  | bracketed => exact fun c hc => by cases hc

/-- Without a star before its first bracket, the text up to there is that of the attributes up to
the first other access. -/
theorem Spelled.takeWhile_eq (h : Spelled path s) (hstar : '*' ∉ s.takeWhile (· ≠ '[')) :
    s.takeWhile (· ≠ '[') = (path.takeWhile isAttribute).flatMap chars := by
  induction h with
  | nil => rfl
  | @named name s path hne hchars more ih =>
    rw [takeWhile_named hchars] at hstar ⊢
    simp only [List.mem_cons, List.mem_append, not_or] at hstar
    have hsegment : ofAttribute name = .attribute (String.ofList name) := by
      rw [ofAttribute, if_neg]
      rintro rfl
      exact hstar.2.1 (List.mem_singleton_self '*')
    rw [ih hstar.2.2, hsegment, List.takeWhile_cons_of_pos rfl, List.flatMap_cons, chars,
      String.toList_ofList, List.cons_append]
  | bracketed => simp [isAttribute_ofIndex]

end Segment

/-! ### Keys -/

namespace OutputValue

theorem isDependencyChar_of_isAttributeChar {c : Char} (h : isAttributeChar c = true)
    (hstar : c ≠ '*') : isDependencyChar c = true := by
  simp only [isAttributeChar, Bool.or_eq_true, beq_iff_eq, hstar, or_false] at h
  simp only [isDependencyChar, Bool.or_eq_true, beq_iff_eq]
  rcases h with hword | hhyphen
  · exact .inl (.inl hword)
  · exact .inr hhyphen

/-- A point between two texts makes a dependency of them. -/
theorem isDependency_append {x y : List Char} (hx : x ≠ []) (hy : y ≠ [])
    (hchars : ∀ c ∈ x ++ '.' :: y, isDependencyChar c = true) :
    isDependency (String.ofList (x ++ '.' :: y)) = true := by
  obtain ⟨c, more, rfl⟩ := List.exists_cons_of_ne_nil hx
  have hpoint : '.' ∈ ((c :: more ++ '.' :: y).drop 1).dropLast := by
    rw [List.cons_append, List.drop_one, List.tail_cons, List.dropLast_append_of_ne_nil (by simp),
      List.dropLast_cons_of_ne_nil hy]
    simp
  rw [isDependency, String.toList_ofList, Bool.and_eq_true, List.all_eq_true]
  exact ⟨hchars, List.contains_iff_mem.2 hpoint⟩

theorem isDependencyChar_of_isDependency {name : String} (h : isDependency name = true) :
    ∀ c ∈ name.toList, isDependencyChar c = true := by
  rw [isDependency, Bool.and_eq_true] at h
  exact List.all_eq_true.1 h.1

theorem dependencyOf_localValue (name : List Char) (path : List Segment) :
    dependencyOf (.localValue (String.ofList name) path) = String.ofList (localText name) := by
  rw [dependencyOf, localText, List.append_cons, String.ofList_append]
  rfl

theorem isDependency_localText {name : List Char} (hname : IsAttributeName name)
    (hstar : '*' ∉ name) : isDependency (String.ofList (localText name)) = true := by
  apply isDependency_append (by decide) hname.1
  intro c hc
  rcases List.mem_append.1 hc with hlocal | hc
  · have hall : localRoot.all isDependencyChar = true := by decide
    exact List.all_eq_true.1 hall c hlocal
  · rcases List.mem_cons.1 hc with rfl | hc
    · decide
    · exact isDependencyChar_of_isAttributeChar (hname.2.2 c hc) fun heq => hstar (heq ▸ hc)

theorem mem_collectDependencies {value : Value} {dependsOn : Option Value} {r : Reference}
    (h : r ∈ value.references) :
    dependencyOf r ∈ collectDependencies value dependsOn ↔
      isDependency (dependencyOf r) = true := by
  unfold collectDependencies
  rw [List.mem_filter, List.mem_eraseDups, List.mem_append]
  exact and_iff_right (.inl (List.mem_map_of_mem h))

/-! ### References of a value -/

/-- A text as one interpolation. -/
def interpolated (t : String) : String := String.ofList (Piece.interpolation t.toList).chars

section Interpolated
variable {t : String} {r : Reference} (hr : Reference.ofChars? t.toList = some r)
  (htrim : trim t.toList = t.toList)

include hr htrim

theorem isTraversalChar_of_ofChars? : t.toList ≠ [] ∧ ∀ c ∈ t.toList, isTraversalChar c = true := by
  obtain ⟨-, traversal, hspelled, -⟩ := Reference.ofChars?_eq_some_iff.1 hr
  rw [htrim] at hspelled
  exact ⟨hspelled.ne_nil, hspelled.isTraversalChar⟩

theorem whole?_interpolated : Template.whole? (interpolated t).toList = some t.toList := by
  obtain ⟨hne, hchars⟩ := isTraversalChar_of_ofChars? hr htrim
  rw [interpolated, String.toList_ofList]
  refine Template.whole?_eq_some_iff.2 ⟨rfl, fun hbrace => ?_, ?_⟩
  · exact absurd (hchars _ hbrace) (by decide)
  · obtain ⟨c, more, hmore⟩ := List.exists_cons_of_ne_nil hne
    have hc := isBlank_of_isTraversalChar (hchars c (by simp [hmore]))
    simp [hmore, allBlank, hc]

theorem references_interpolated : (Value.string (interpolated t)).references = [r] := by
  obtain ⟨htext, hbrace, hblank⟩ :=
    Template.whole?_eq_some_iff.1 (whole?_interpolated hr htrim)
  rw [Value.references, Value.allReferences, htext, Reference.ofText_interpolation hbrace hblank,
    Reference.ofInterpolation, hr]
  rfl

theorem namedBy_interpolated : namedBy (.string (interpolated t)) = [dependencyOf r] := by
  obtain ⟨hpieces, hblank⟩ := Template.pieces_of_whole? (whole?_interpolated hr htrim)
  have hspans : Template.spans (interpolated t).toList ≠ [] := by
    simp [Template.spans, hpieces, Template.spansFrom, hblank]
  rw [namedBy, if_neg (by simpa using hspans), dependenciesOf, references_interpolated hr htrim]
  rfl

theorem namedBy_bare : namedBy (.string t) = [t] := by
  have hdollar : '$' ∉ t.toList := fun hmem =>
    absurd ((isTraversalChar_of_ofChars? hr htrim).2 _ hmem) (by decide)
  rw [namedBy, Template.spans_of_not_mem hdollar, if_pos List.isEmpty_nil, htrim,
    String.ofList_toList]

end Interpolated

/-! ### Stems among the dependencies -/

section Stem
variable {r : Reference} {written : List Char}

theorem stem_external {t : Traversal} {text : List Char} (h : t.Spelled text) :
    (Reference.external (String.ofList text)).traversal = t := by
  have hread := Traversal.read?_of_spelled h Segment.ends_nil
  rw [List.append_nil] at hread
  rw [Reference.traversal, String.toList_ofList, hread]

/-- Up to its first bracket, a traversal without a star there is its stem, and a dependency if its
first access is an attribute. -/
theorem takeWhile_spelled {t : Traversal} {text : List Char} (h : t.Spelled text) {name : String}
    {path : List Segment} (haccesses : t.accesses = .attribute name :: path)
    (hstar : '*' ∉ text.takeWhile (· ≠ '[')) :
    text.takeWhile (· ≠ '[') = t.stem ∧
      isDependency (String.ofList (text.takeWhile (· ≠ '['))) = true := by
  obtain ⟨hroot, s, hs, rfl⟩ := h
  have hfront : (t.root ++ s).takeWhile (· ≠ '[') = t.root ++ s.takeWhile (· ≠ '[') := by
    apply List.takeWhile_append_of_pos
    intro c hc
    rw [decide_eq_true_eq]
    rintro rfl
    exact absurd (hroot.isRootChar _ hc) (by decide)
  rw [hfront] at hstar ⊢
  obtain ⟨hrootStar, hstar⟩ := not_or.1 (mt List.mem_append.2 hstar)
  refine ⟨by rw [hs.takeWhile_eq hstar, Traversal.stem], ?_⟩
  have hbefore := hs.char_before_bracket
  rw [haccesses] at hs
  obtain ⟨chars, rest, hname, -, -, rfl⟩ := Reference.spelled_attribute_cases hs
  rw [Segment.takeWhile_named hname.2.2] at hbefore hstar ⊢
  refine isDependency_append hroot.ne_nil (by simp [hname.1]) fun c hc => ?_
  rcases List.mem_append.1 hc with hc | hc
  · exact isDependencyChar_of_isAttributeChar
      (isAttributeChar_of_isRootChar (hroot.isRootChar c hc)) fun heq => hrootStar (heq ▸ hc)
  · rcases hbefore c hc with hattribute | rfl
    · exact isDependencyChar_of_isAttributeChar hattribute fun heq => hstar (heq ▸ hc)
    · decide

/-- The key of a reference with a plain first access is its stem, and a dependency, unless a star is
left in it. -/
theorem stem_of_not_isStarred (hr : Reference.ofChars? written = some r)
    (hplain : r.startsPlain = true) (hstarred : r.isStarred = false) :
    dependencyOf r = r.stem ∧ isDependency (dependencyOf r) = true := by
  obtain ⟨name, path, -, rfl, hname, -, -⟩ | ⟨t, rfl, hspelled, -⟩ := Reference.ofChars?_cases hr
  · have hstar : '*' ∉ name := by
      simpa [Reference.startsPlain, Reference.traversal] using hplain
    refine ⟨rfl, ?_⟩
    rw [dependencyOf_localValue]
    exact isDependency_localText hname hstar
  · have htraversal := stem_external hspelled
    rw [Reference.startsPlain, htraversal] at hplain
    split at hplain
    · next name path haccesses =>
      have hstar : '*' ∉ (trim written).takeWhile (· ≠ '[') := by
        simpa [Reference.isStarred] using hstarred
      obtain ⟨hstem, hkey⟩ := takeWhile_spelled hspelled haccesses hstar
      rw [dependencyOf, Reference.stem, htraversal, String.toList_ofList, ← hstem]
      exact ⟨rfl, hkey⟩
    · cases hplain

/-- A reference with a star before its first bracket is the only one of an output, and the output
has no dependencies. -/
theorem collectDependencies_of_isStarred (hr : Reference.ofChars? written = some r)
    (hstarred : r.isStarred = true) :
    ∃ value, r ∈ value.references ∧ collectDependencies value none = [] := by
  obtain ⟨name, path, -, rfl, -⟩ | ⟨t, rfl, hspelled, hwritten⟩ := Reference.ofChars?_cases hr
  · cases hstarred
  · have hreferences := references_interpolated (t := String.ofList (trim written))
      (by rwa [String.toList_ofList]) (by rw [String.toList_ofList, hspelled.trim_eq])
    refine ⟨_, by rw [hreferences]; exact List.mem_singleton_self _, ?_⟩
    have hkey : isDependency (dependencyOf (.external (String.ofList (trim written)))) ≠ true := by
      intro hkey
      rw [Reference.isStarred, List.contains_iff_mem] at hstarred
      have hchar := isDependencyChar_of_isDependency hkey '*'
      rw [dependencyOf, String.toList_ofList] at hchar
      exact absurd (hchar hstarred) (by decide)
    unfold collectDependencies
    rw [dependenciesOf, hreferences]
    simpa using hkey

end Stem

/-- The dependencies of an output contain the stem of every reference of its value that starts with
a plain attribute, as long as no star stands before the first bracket of the reference. -/
theorem stem_retained_iff {v : Value} {r : Reference} (h : r ∈ v.references)
    (hplain : r.startsPlain = true) :
    (∀ value dependsOn, r ∈ value.references → r.stem ∈ collectDependencies value dependsOn) ↔
      r.isStarred = false := by
  rw [Value.references, List.mem_eraseDups] at h
  obtain ⟨written, hr⟩ := Value.exists_ofChars?_of_mem_allReferences v h
  constructor
  · intro hretained
    rw [← Bool.not_eq_true]
    intro hstarred
    obtain ⟨value, hmem, hnone⟩ := collectDependencies_of_isStarred hr hstarred
    have hstem := hretained value none hmem
    rw [hnone] at hstem
    cases hstem
  · intro hstarred value dependsOn hmem
    obtain ⟨hstem, hkey⟩ := stem_of_not_isStarred hr hplain hstarred
    rw [← hstem]
    exact (mem_collectDependencies hmem).2 hkey

theorem stem_retained_index :
    .external "module.vpc.subnets[0].id" ∈
      (Value.string "${module.vpc.subnets[0].id}").references ∧
    (Reference.external "module.vpc.subnets[0].id").startsPlain = true ∧
    ∀ value dependsOn, .external "module.vpc.subnets[0].id" ∈ value.references →
      "module.vpc.subnets" ∈ collectDependencies value dependsOn := by
  have hmem : .external "module.vpc.subnets[0].id" ∈
      (Value.string "${module.vpc.subnets[0].id}").references := by decide +kernel
  have hplain : (Reference.external "module.vpc.subnets[0].id").startsPlain = true := by
    decide +kernel
  have hstem : (Reference.external "module.vpc.subnets[0].id").stem = "module.vpc.subnets" := by
    decide +kernel
  refine ⟨hmem, hplain, ?_⟩
  rw [← hstem]
  exact (stem_retained_iff hmem hplain).2 (by decide +kernel)

/-- The reference is found and starts with an attribute, and its output depends on nothing. -/
theorem stem_lost_splat :
    let value : Value := .string "${aws_instance.web.*.id}"
    let r : Reference := .external "aws_instance.web.*.id"
    r ∈ value.references ∧ r.startsPlain = true ∧ r.stem = "aws_instance.web" ∧
      collectDependencies value none = [] := by
  decide +kernel

/-! ### Entries of `depends_on` -/

theorem isDependency_dependencyOf {t : String} {r : Reference}
    (hr : Reference.ofChars? t.toList = some r) (htrim : trim t.toList = t.toList)
    (h : isDependency t = true) : isDependency (dependencyOf r) = true := by
  have hchars := isDependencyChar_of_isDependency h
  obtain ⟨name, path, rest, rfl, hname, -, htext⟩ | ⟨traversal, rfl, -, -⟩ :=
    Reference.ofChars?_cases hr
  · rw [dependencyOf_localValue]
    refine isDependency_localText hname fun hstar => ?_
    rw [← htrim, htext] at hchars
    exact absurd (hchars '*' (by simp [localText, hstar])) (by decide)
  · rw [htrim, dependencyOf, String.ofList_toList, List.takeWhile_eq_self_iff.2,
      String.ofList_toList]
    · exact h
    · intro c hc
      rw [decide_eq_true_eq]
      rintro rfl
      exact absurd (hchars _ hc) (by decide)

theorem mem_collectDependencies_entry {value entry : Value} {name : String} :
    name ∈ collectDependencies value (some (.list [entry])) ↔
      (name ∈ dependenciesOf value ∨ name ∈ namedBy entry) ∧ isDependency name = true := by
  simp [collectDependencies]

/-- A reference may be written bare or as an interpolation in `depends_on` if its key is the text
itself, or no dependency; any other one is named by the interpolation only. -/
theorem bare_entry_iff {t : String} {r : Reference} (hr : Reference.parse? t = some r)
    (htrim : trim t.toList = t.toList) :
    (∀ (value : Value) (name : String),
      name ∈ collectDependencies value (some (.list [.string t])) ↔
        name ∈ collectDependencies value (some (.list [.string (interpolated t)]))) ↔
      (isDependency (dependencyOf r) = true → dependencyOf r = t) := by
  simp only [mem_collectDependencies_entry, namedBy_bare hr htrim, namedBy_interpolated hr htrim,
    List.mem_singleton]
  constructor
  · intro hsame hkey
    exact ((hsame .null _).2 ⟨.inr rfl, hkey⟩).1.resolve_left List.not_mem_nil
  · intro hkey value name
    by_cases hdependency : isDependency (dependencyOf r) = true
    · rw [hkey hdependency]
    · -- neither of the two passes as a dependency
      have hbare : isDependency t ≠ true := mt (isDependency_dependencyOf hr htrim) hdependency
      constructor
      · rintro ⟨hvalue | rfl, hname⟩
        · exact ⟨.inl hvalue, hname⟩
        · exact absurd hname hbare
      · rintro ⟨hvalue | rfl, hname⟩
        · exact ⟨.inl hvalue, hname⟩
        · exact absurd hname hdependency

theorem bare_entry_module :
    Reference.parse? "module.db" = some (.external "module.db") ∧
    trim "module.db".toList = "module.db".toList ∧
    ∀ (value : Value) (name : String),
      name ∈ collectDependencies value (some (.list [.string "module.db"])) ↔
        name ∈ collectDependencies value (some (.list [.string (interpolated "module.db")])) := by
  have hparse : Reference.parse? "module.db" = some (.external "module.db") := by decide +kernel
  have htrim : trim "module.db".toList = "module.db".toList := by decide +kernel
  exact ⟨hparse, htrim, (bare_entry_iff hparse htrim).2 fun _ => by decide +kernel⟩

/-- An indexed reference names nothing when it is written bare. -/
theorem bare_entry_lost :
    let t := "module.vpc.subnets[0]"
    (Reference.parse? t).isSome = true ∧ trim t.toList = t.toList ∧
      collectDependencies (.string "x") (some (.list [.string t])) = [] ∧
      collectDependencies (.string "x") (some (.list [.string (interpolated t)])) =
        ["module.vpc.subnets"] := by
  decide +kernel

end OutputValue

end InfraConfig
