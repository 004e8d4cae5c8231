import InfraConfig.Proofs.Locals.Consistency
import InfraConfig.Proofs.Reference.Grammar
import InfraConfig.Proofs.Template.Reading
import InfraConfig.Proofs.Value.Numerals

/-! What is read in a text after its known references have been replaced. A value is pasted into the
text as it is, and the text is read again by whoever comes after. A value without an opening brace
opens no interpolation by itself, but one that ends in a dollar sign can take what follows with it:
in front of a brace it opens an interpolation, in front of an interpolation it makes an escape of it
(`clashes`). Without such a clash the pasted text is read as the pieces that were there, with
characters in the place of what is known (`reading_fill`), so that exactly the references remain that
are not known (`retains_of_plain`). -/
namespace InfraConfig

open Text (allBlank)
open Template (Piece Reading pieces spans whole?)

namespace Value

/-- Null, a truth value, a number, or a text without an opening brace. -/
def IsPlain : Value → Prop
  | .null | .bool _ | .number _ => True
  | .string s => '{' ∉ s.toList
  | .list _ | .object _ => False

instance : (v : Value) → Decidable v.IsPlain
  | .null | .bool _ | .number _ => isTrue trivial
  | .string s => inferInstanceAs (Decidable ('{' ∉ s.toList))
  | .list _ | .object _ => isFalse id

theorem not_mem_interpolated {v : Value} (h : v.IsPlain) : '{' ∉ v.interpolated := by
  cases v with
  | null => decide
  | bool b => cases b <;> decide
  | number n => exact fun hmem => absurd (isNumeralChar_numberText n _ hmem) (by decide)
  | string s => exact h
  | list items => cases h
  | object members => cases h

/-- No access leads into a plain value. -/
theorem navigate_of_isPlain {v value : Value} {path : List Segment} (h : v.IsPlain)
    (hvalue : v.navigate path = some value) : path = [] ∧ value = v := by
  cases path with
  | nil => exact ⟨rfl, (Option.some.inj hvalue).symm⟩
  | cons segment path =>
    cases v with
    | list items => cases h
    | object members => cases h
    | null => simp [navigate] at hvalue
    | bool b => simp [navigate] at hvalue
    | number n => simp [navigate] at hvalue
    | string s => simp [navigate] at hvalue

end Value

/-! ### The filled text -/

namespace Reference

theorem ofChars?_of_allBlank {raw : List Char} (h : allBlank raw = true) : ofChars? raw = none := by
  rw [ofChars?, Text.trim_eq_nil_iff.2 h]
  rfl

/-- An interpolation that is blank or one traversal. -/
def IsSimple (raw : List Char) : Prop := allBlank raw = true ∨ (ofChars? raw).isSome = true

theorem ofPiece_of_isSimple {raw : List Char} (h : IsSimple raw) :
    ofPiece (.interpolation raw) = (ofChars? raw).toList := by
  rw [ofPiece]
  split
  · next hblank => rw [ofChars?_of_allBlank hblank]; rfl
  · next hblank =>
    obtain ⟨r, hr⟩ := Option.isSome_iff_exists.1 (h.resolve_left hblank)
    rw [ofInterpolation, hr]
    rfl

theorem flatMap_ofPiece_chars (s : List Char) :
    (s.map Piece.char).flatMap ofPiece = [] := by
  induction s with
  | nil => rfl
  | cons c s ih => exact ih

end Reference

theorem Value.allReferences_of_isPlain {v : Value} (h : v.IsPlain) : v.allReferences = [] := by
  cases v with
  | null => rfl
  | bool b => rfl
  | number n => rfl
  | list items => cases h
  | object members => cases h
  | string s =>
    rw [allReferences, Reference.ofText,
      Template.pieces_of_reading_nil (Reading.of_not_mem h), Reference.flatMap_ofPiece_chars]

namespace Environment

open Reference (IsSimple flatMap_ofPiece_chars)

variable (env : Environment)

/-- The known value that an interpolation is replaced by. -/
def known? (raw : List Char) : Option Value := (Reference.ofChars? raw).bind env.resolve

/-- The pieces that are read in the place of a piece. -/
def refill : Piece → List Piece
  | .interpolation raw =>
    match env.known? raw with
    | some value => value.interpolated.map .char
    | none => [.interpolation raw]
  | piece => [piece]

/-- Whether a value that ends in a dollar sign is pasted in front of a brace or an interpolation. -/
def clashes : List Piece → Bool
  | [] => false
  | .interpolation raw :: back =>
    (env.fillPiece (.interpolation raw)).getLast? == some '$' &&
      Template.opens (back.flatMap env.fillPiece) || clashes back
  | _ :: back => clashes back

variable {env}

theorem fillPiece_of_isSimple {raw : List Char} (h : IsSimple raw) :
    env.fillPiece (.interpolation raw) =
      ((env.known? raw).map Value.interpolated).getD (Piece.interpolation raw).chars := by
  rw [fillPiece, known?]
  split
  · next hblank => rw [Reference.ofChars?_of_allBlank hblank]; rfl
  · next hblank =>
    obtain ⟨r, hr⟩ := Option.isSome_iff_exists.1 (h.resolve_left hblank)
    simp only [hr, Option.bind_some]
    cases env.resolve r <;> rfl

theorem flatMap_fillPiece_chars (s : List Char) : (s.map Piece.char).flatMap env.fillPiece = s := by
  induction s with
  | nil => rfl
  | cons c s ih => exact congrArg (c :: ·) ih

theorem clashes_interpolation {raw : List Char} {back : List Piece}
    (h : env.clashes (.interpolation raw :: back) = false) :
    ((env.fillPiece (.interpolation raw)).getLast? = some '$' →
      Template.opens (back.flatMap env.fillPiece) = false) ∧ env.clashes back = false := by
  simpa [clashes] using h

/-- A text whose interpolations are blank or single traversals is read, once it is filled, as the
pieces that were there, with characters in the place of what is known. -/
theorem reading_fill {s rest : List Char} {ps : List Piece} (h : Reading s ps rest)
    (hsimple : ∀ raw, .interpolation raw ∈ ps → IsSimple raw)
    (hplain : ∀ raw value, env.known? raw = some value → value.IsPlain)
    (hclash : env.clashes (ps ++ rest.map .char) = false) :
    Reading (ps.flatMap env.fillPiece ++ rest) (ps.flatMap env.refill) rest := by
  induction h with
  | done => exact .done
  | unclosed noClose => exact .unclosed noClose
  | escape _ ih =>
    simp only [List.mem_cons, reduceCtorEq, false_or] at hsimple
    exact .escape (ih hsimple hclash)
  | @char c s rest ps unopened unescaped more ih =>
    simp only [List.mem_cons, reduceCtorEq, false_or] at hsimple
    have hmore := ih hsimple hclash
    refine .literal ?_ hmore
    intro hdollar
    subst hdollar
    -- behind a dollar sign stands no interpolation, so what is behind it starts as it did
    cases more with
    | done => rfl
    | unclosed => exact absurd ⟨_, rfl⟩ unescaped
    | escape => rfl
    | interpolation => exact absurd ⟨_, rfl⟩ unescaped
    | @char d s =>
      rw [Template.opens_eq_false_iff]
      refine ⟨fun hbrace => ?_, hmore.not_opens_char⟩
      obtain ⟨rfl, -⟩ := List.cons_prefix_cons.1 hbrace
      exact unopened ⟨s, rfl⟩
  | @interpolation raw s rest ps noClose more ih =>
    rw [List.cons_append] at hclash
    obtain ⟨hend, hback⟩ := clashes_interpolation hclash
    have hraw : env.fillPiece (.interpolation raw) = _ :=
      fillPiece_of_isSimple (hsimple raw List.mem_cons_self)
    have hmore := ih (fun inner hinner => hsimple inner (List.mem_cons_of_mem _ hinner)) hback
    rw [hraw, List.flatMap_append, flatMap_fillPiece_chars] at hend
    rw [List.flatMap_cons, List.flatMap_cons, List.append_assoc, refill, hraw]
    cases hknown : env.known? raw with
    | none => exact hmore.interpolation_append noClose
    | some value =>
      rw [hknown] at hend
      exact hmore.paste (Value.not_mem_interpolated (hplain raw value hknown)) hend

theorem flatMap_ofPiece_refill {p : Piece} (h : ∀ raw, p = .interpolation raw → IsSimple raw) :
    (env.refill p).flatMap Reference.ofPiece =
      (Reference.ofPiece p).filter fun r => (env.resolve r).isNone := by
  cases p with
  | char c => rfl
  | escape => rfl
  | interpolation raw =>
    have hraw := h raw rfl
    rw [refill, Reference.ofPiece_of_isSimple hraw, known?]
    cases hr : Reference.ofChars? raw with
    | none => simp [Reference.ofPiece_of_isSimple hraw, hr]
    | some r =>
      cases hresolve : env.resolve r with
      | none => simp [Reference.ofPiece_of_isSimple hraw, hr, hresolve]
      | some value => simp [hresolve, flatMap_ofPiece_chars]

/-- Of the references of a text those remain that are not known. -/
theorem ofText_fillText {s : List Char}
    (hsimple : ∀ raw, .interpolation raw ∈ pieces s → IsSimple raw)
    (hplain : ∀ raw value, env.known? raw = some value → value.IsPlain)
    (hclash : env.clashes (pieces s) = false) :
    Reference.ofText (env.fillText s) =
      (Reference.ofText s).filter fun r => (env.resolve r).isNone := by
  obtain ⟨ps, rest, hreading⟩ := Template.exists_reading s
  have hpieces := hreading.pieces_eq
  have hmem : ∀ p ∈ ps, p ∈ pieces s := fun p hp => hpieces ▸ List.mem_append_left _ hp
  have hfilled : Reading (ps.flatMap env.fillPiece ++ rest) (ps.flatMap env.refill) rest :=
    reading_fill hreading (fun raw h => hsimple raw (hmem _ h)) hplain (hpieces ▸ hclash)
  have hrefill : ps.map (fun p => (env.refill p).flatMap Reference.ofPiece) =
      ps.map fun p => (Reference.ofPiece p).filter fun r => (env.resolve r).isNone := by
    apply List.map_congr_left
    intro p hp
    apply flatMap_ofPiece_refill
    intro raw heq
    exact hsimple raw (heq ▸ hmem p hp)
  calc Reference.ofText (env.fillText s)
      = Reference.ofText (ps.flatMap env.fillPiece ++ rest) := by
        rw [fillText, hpieces, List.flatMap_append, flatMap_fillPiece_chars]
    _ = (ps.flatMap env.refill).flatMap Reference.ofPiece := by
        rw [Reference.ofText, hfilled.pieces_eq, List.flatMap_append, flatMap_ofPiece_chars,
          List.append_nil]
    _ = (ps.flatMap Reference.ofPiece).filter fun r => (env.resolve r).isNone := by
        rw [List.flatMap_assoc, List.flatMap_def, hrefill, ← List.flatMap_def, List.filter_flatMap]
    _ = (Reference.ofText s).filter fun r => (env.resolve r).isNone := by
        rw [Reference.ofText, hpieces, List.flatMap_append, flatMap_ofPiece_chars, List.append_nil]

theorem allReferences_substitute {s : String}
    (hsimple : ∀ raw, .interpolation raw ∈ pieces s.toList → IsSimple raw)
    (hplain : ∀ raw value, env.known? raw = some value → value.IsPlain)
    (hclash : env.clashes (pieces s.toList) = false) :
    (env.substitute (.string s)).allReferences =
      (Value.string s).allReferences.filter fun r => (env.resolve r).isNone := by
  rw [Environment.substitute, substituteText]
  split
  · next value hvalue =>
    obtain ⟨raw, hwhole, hknown⟩ := Option.bind_eq_some_iff.1 hvalue
    obtain ⟨r, hr, hresolve⟩ := Option.bind_eq_some_iff.1 hknown
    obtain ⟨hpieces, -⟩ := Template.pieces_of_whole? hwhole
    have hraw : IsSimple raw := .inr (by rw [hr]; rfl)
    have htext : (Value.string s).allReferences = [r] := by
      rw [Value.allReferences, Reference.ofText, hpieces, List.flatMap_singleton,
        Reference.ofPiece_of_isSimple hraw, hr]
      rfl
    rw [Value.allReferences_of_isPlain (hplain raw value hknown), htext]
    simp [hresolve]
  · rw [Value.allReferences, String.toList_ofList]
    exact ofText_fillText hsimple hplain hclash

end Environment

theorem eraseDups_filter {α : Type} [BEq α] [LawfulBEq α] (p : α → Bool) (l : List α) :
    (l.filter p).eraseDups = l.eraseDups.filter p := by
  induction hlength : l.length using Nat.strongRecOn generalizing l with
  | ind n ih =>
    cases l with
    | nil => rfl
    | cons a l =>
      have hshorter : (l.filter fun b => !b == a).length < n := by
        have := List.length_filter_le (fun b => !b == a) l
        rw [List.length_cons] at hlength
        omega
      have hrest := ih _ hshorter _ rfl
      rw [List.filter_comm] at hrest
      cases ha : p a with
      | true => rw [List.filter_cons_of_pos ha, List.eraseDups_cons, List.eraseDups_cons,
          List.filter_cons_of_pos ha, hrest]
      | false =>
        have hsame : (l.filter p).filter (fun b => !b == a) = l.filter p := by
          rw [List.filter_eq_self]
          intro b hb
          have hpb := (List.mem_filter.1 hb).2
          by_cases hba : b = a
          · rw [hba, ha] at hpb
            cases hpb
          · simp [hba]
        have ha' : ¬ p a = true := by simp [ha]
        rw [List.filter_cons_of_neg ha', List.eraseDups_cons, List.filter_cons_of_neg ha', ← hrest,
          hsame]

/-! ### What remains -/

/-- All interpolations of a text that are not blank are single traversals. -/
def Reference.AllTraversals (s : String) : Prop :=
  ∀ span ∈ spans s.toList, (Reference.ofChars? span.raw).isSome = true

instance (s : String) : Decidable (Reference.AllTraversals s) :=
  inferInstanceAs (Decidable (∀ span ∈ spans s.toList, (Reference.ofChars? span.raw).isSome = true))

theorem Reference.AllTraversals.isSimple {s : String} (h : AllTraversals s) {raw : List Char}
    (hraw : .interpolation raw ∈ pieces s.toList) : IsSimple raw := by
  cases hblank : allBlank raw with
  | true => exact .inl hblank
  | false =>
    obtain ⟨span, hspan, rfl⟩ := Template.exists_span_iff.2 ⟨hraw, hblank⟩
    exact .inr (h span hspan)

namespace Environment

open Reference (AllTraversals IsAttributeName IsSimple flatMap_ofPiece_chars localText)

variable {env : Environment}

/-- Of the references of a text those remain that are not known, in their order. -/
def Retains (env : Environment) (s : String) : Prop :=
  (env.substitute (.string s)).references =
    (Value.string s).references.filter fun r => (env.resolve r).isNone

instance (env : Environment) (s : String) : Decidable (env.Retains s) :=
  inferInstanceAs (Decidable (_ = _))

theorem Retains.mem_external {s : String} (h : env.Retains s) {written : String}
    (hmem : .external written ∈ (Value.string s).references) :
    .external written ∈ (env.substitute (.string s)).references := by
  rw [h]
  exact List.mem_filter.2 ⟨hmem, rfl⟩

/-- What is known of an interpolation is the value of a local value whose name can be written. -/
theorem exists_name_of_known? {raw : List Char} {value : Value}
    (hplain : ∀ name value, env name = some value → value.IsPlain)
    (h : env.known? raw = some value) :
    ∃ name : String, IsAttributeName name.toList ∧ env name = some value := by
  obtain ⟨r, hr, hresolve⟩ := Option.bind_eq_some_iff.1 h
  obtain ⟨name, path, rest, rfl, hname, -, -⟩ | ⟨t, rfl, -, -⟩ := Reference.ofChars?_cases hr
  · obtain ⟨found, hfound, hvalue⟩ := Option.bind_eq_some_iff.1 hresolve
    obtain ⟨-, rfl⟩ := Value.navigate_of_isPlain (hplain _ _ hfound) hvalue
    exact ⟨String.ofList name, by rwa [String.toList_ofList], hfound⟩
  · cases hresolve

/-- Where nothing clashes, exactly the references remain that are not known. -/
theorem retains_of_plain {s : String} (hplain : ∀ name value, env name = some value → value.IsPlain)
    (hs : AllTraversals s) (hclash : env.clashes (pieces s.toList) = false) : env.Retains s := by
  have hknown : ∀ raw value, env.known? raw = some value → value.IsPlain := by
    intro raw value h
    obtain ⟨name, -, hname⟩ := exists_name_of_known? hplain h
    exact hplain name value hname
  rw [Retains, Value.references, allReferences_substitute (fun _ => hs.isSimple) hknown hclash,
    eraseDups_filter]
  rfl

/-- Nothing clashes where no value ends in a dollar sign. -/
theorem clashes_eq_false {ps : List Piece} (hsimple : ∀ raw, .interpolation raw ∈ ps → IsSimple raw)
    (hend : ∀ raw value, env.known? raw = some value → value.interpolated.getLast? ≠ some '$') :
    env.clashes ps = false := by
  induction ps with
  | nil => rfl
  | cons p ps ih =>
    have hrest := ih fun raw hraw => hsimple raw (List.mem_cons_of_mem _ hraw)
    cases p with
    | char c => exact hrest
    | escape => exact hrest
    | interpolation raw =>
      have hlast : (env.fillPiece (.interpolation raw)).getLast? ≠ some '$' := by
        rw [fillPiece_of_isSimple (hsimple raw List.mem_cons_self)]
        cases hknown : env.known? raw with
        | none =>
          show (Piece.interpolation raw).chars.getLast? ≠ _
          rw [Piece.chars, List.getLast?_concat]
          decide
        | some value => exact hend raw value hknown
      simp [clashes, hlast, hrest]

/-! ### An escaped reference -/

/-- An interpolation of a local value, and right behind it one of an external reference. -/
def adjacent (name : String) : List Char :=
  (Piece.interpolation (localText name.toList)).chars ++ "${var.x}".toList

section Adjacent
variable {name : String} (hname : IsAttributeName name.toList)
include hname

theorem ofChars?_localText :
    Reference.ofChars? (localText name.toList) = some (.localValue name []) := by
  have hspelled := Reference.spelled_localText hname .nil
  rw [List.append_nil, String.ofList_toList] at hspelled
  rw [Reference.ofChars?_of_spelled hspelled (List.cons_ne_nil _ _), Reference.ofTraversal,
    if_pos rfl]

theorem pieces_adjacent :
    pieces (adjacent name) =
      [.interpolation (localText name.toList), .interpolation "var.x".toList] := by
  have hbrace : '}' ∉ localText name.toList := by
    have hchars := (Reference.spelled_localText hname .nil).isTraversalChar
    rw [List.append_nil] at hchars
    exact fun hmem => absurd (hchars _ hmem) (by decide)
  have hexternal : Reading "${var.x}".toList [.interpolation "var.x".toList] [] :=
    .interpolation (by decide : '}' ∉ "var.x".toList) .done
  exact Template.pieces_of_reading_nil (hexternal.interpolation_append hbrace)

theorem allTraversals_adjacent : AllTraversals (String.ofList (adjacent name)) := by
  intro span hspan
  rw [String.toList_ofList] at hspan
  have hmem := (Template.exists_span_iff.1 ⟨span, hspan, rfl⟩).1
  rw [pieces_adjacent hname] at hmem
  simp only [List.mem_cons, Piece.interpolation.injEq, List.not_mem_nil, or_false] at hmem
  rcases hmem with hlocal | hexternal
  · rw [hlocal, ofChars?_localText hname]
    rfl
  · rw [hexternal]
    decide +kernel

theorem ofText_adjacent :
    Reference.ofText (adjacent name) = [.localValue name [], .external "var.x"] := by
  have hlocal : IsSimple (localText name.toList) := .inr (by rw [ofChars?_localText hname]; rfl)
  have hexternal : Reference.ofPiece (.interpolation "var.x".toList) = [.external "var.x"] := by
    decide +kernel
  rw [Reference.ofText, pieces_adjacent hname, List.flatMap_cons, List.flatMap_singleton, hexternal,
    Reference.ofPiece_of_isSimple hlocal, ofChars?_localText hname]
  rfl

theorem substituteText_adjacent {value : Value} (henv : env name = some value) :
    env.substituteText (adjacent name) =
      .string (String.ofList (value.interpolated ++ "${var.x}".toList)) := by
  have hlocal : IsSimple (localText name.toList) := .inr (by rw [ofChars?_localText hname]; rfl)
  have hknown : env.known? (localText name.toList) = some value := by
    rw [known?, ofChars?_localText hname, Option.bind_some, resolve, henv]
    rfl
  have hexternal : Reference.ofChars? "var.x".toList = some (.external "var.x") := by
    decide +kernel
  have hunknown : env.known? "var.x".toList = none := by
    rw [known?, hexternal]
    rfl
  have hwhole : whole? (adjacent name) = none := by rw [whole?, pieces_adjacent hname]
  rw [substituteText, hwhole, Option.bind_none, fillText, pieces_adjacent hname, List.flatMap_cons,
    List.flatMap_singleton, fillPiece_of_isSimple hlocal, hknown,
    fillPiece_of_isSimple (.inr (by rw [hexternal]; rfl)), hunknown]
  rfl

/-- A value that ends in a dollar sign makes an escape of the interpolation behind it. -/
theorem not_retains_adjacent {value : Value} (henv : env name = some value) (hvalue : value.IsPlain)
    (hlast : value.interpolated.getLast? = some '$') :
    ¬ env.Retains (String.ofList (adjacent name)) := by
  obtain ⟨front, hfront⟩ := List.getLast?_eq_some_iff.1 hlast
  have hbrace : '{' ∉ front := by
    have := Value.not_mem_interpolated hvalue
    rw [hfront] at this
    exact fun hmem => this (List.mem_append_left _ hmem)
  have hescape : Reading "$${var.x}".toList (.escape :: "var.x\x7d".toList.map .char) [] :=
    .escape (.of_not_mem (by decide))
  have hreading : Reading (value.interpolated ++ "${var.x}".toList)
      (front.map .char ++ .escape :: "var.x\x7d".toList.map .char) [] := by
    rw [hfront, List.append_assoc]
    exact hescape.paste hbrace fun _ => rfl
  have hnothing : (env.substitute (.string (String.ofList (adjacent name)))).references = [] := by
    rw [Environment.substitute, String.toList_ofList, substituteText_adjacent hname henv,
      Value.references, Value.allReferences, String.toList_ofList, Reference.ofText,
      Template.pieces_of_reading_nil hreading, List.flatMap_append, flatMap_ofPiece_chars,
      List.flatMap_cons, flatMap_ofPiece_chars]
    rfl
  have hexternal :
      .external "var.x" ∈ (Value.string (String.ofList (adjacent name))).references := by
    rw [Value.references, List.mem_eraseDups, Value.allReferences, String.toList_ofList,
      ofText_adjacent hname]
    simp
  intro h
  have hmem := h.mem_external hexternal
  rw [hnothing] at hmem
  cases hmem

end Adjacent

end Environment

namespace LocalEntry

open Reference (AllTraversals IsAttributeName)

/-- The values of the entries that are evaluated are plain. -/
def AllPlain (entries : Keyed LocalEntry) : Prop :=
  ∀ name entry, entries.lookup name = some entry → entry.evaluated = true → entry.value.IsPlain

variable {entries : Keyed LocalEntry}

theorem allPlain_of_forall_mem
    (h : ∀ member ∈ entries, member.2.evaluated = true → member.2.value.IsPlain) :
    AllPlain entries :=
  fun _ _ hlookup => h _ (Keyed.mem_of_lookup hlookup)

theorem AllPlain.environment (h : AllPlain entries) {name : String} {value : Value}
    (hvalue : environment entries name = some value) : value.IsPlain := by
  obtain ⟨entry, hlookup, hevaluated, rfl⟩ := Evaluator.environment_eq_some_iff.1 hvalue
  exact h name entry hlookup hevaluated

/-- Where the values are plain, substitution into a text of single traversals leaves exactly the
references that are not known, external ones above all, unless a value that ends in a dollar sign is
pasted in front of a brace or of an interpolation. It does so in every such text if and only if no
local value that can be referred to ends in a dollar sign. -/
theorem retains_iff_no_final_dollar (hplain : AllPlain entries) :
    (∀ s, AllTraversals s → (environment entries).clashes (pieces s.toList) = false →
      (environment entries).Retains s ∧
      ∀ written, .external written ∈ (Value.string s).references →
        .external written ∈ ((environment entries).substitute (.string s)).references) ∧
    ((∀ s, AllTraversals s → (environment entries).Retains s) ↔
      ∀ name entry, IsAttributeName name.toList → entries.lookup name = some entry →
        entry.evaluated = true → entry.value.interpolated.getLast? ≠ some '$') := by
  have hknown : ∀ name value, environment entries name = some value → value.IsPlain :=
    fun _ _ => hplain.environment
  refine ⟨fun s hs hclash => ?_, fun hretains name entry hname hlookup hevaluated hlast => ?_,
    fun hend s hs => ?_⟩
  · have hretains := Environment.retains_of_plain hknown hs hclash
    exact ⟨hretains, fun _ => hretains.mem_external⟩
  · have henv : environment entries name = some entry.value :=
      Evaluator.environment_eq_some_iff.2 ⟨entry, hlookup, hevaluated, rfl⟩
    have hlost := Environment.not_retains_adjacent hname henv (hplain.environment henv) hlast
    exact hlost (hretains _ (Environment.allTraversals_adjacent hname))
  · apply Environment.retains_of_plain hknown hs
    apply Environment.clashes_eq_false fun _ => hs.isSimple
    intro raw value hraw
    obtain ⟨name, hname, henv⟩ := Environment.exists_name_of_known? hknown hraw
    obtain ⟨entry, hlookup, hevaluated, rfl⟩ := Evaluator.environment_eq_some_iff.1 henv
    exact hend name entry hname hlookup hevaluated

/-- A price that ends in a dollar sign, in front of a blank and at the end, with a number in front of
a brace and a local value that is not evaluated. -/
theorem retains_price :
    AllPlain [("price", ⟨"price", .null, .string "5$", true⟩),
      ("count", ⟨"count", .null, .int 3, true⟩), ("late", ⟨"late", .null, .object [], false⟩)] ∧
    AllTraversals "$${k} ${local.price} ${var.x}${local.count}\x7b${ }${local.late}${ local.price }" ∧
    (environment [("price", ⟨"price", .null, .string "5$", true⟩),
        ("count", ⟨"count", .null, .int 3, true⟩),
        ("late", ⟨"late", .null, .object [], false⟩)]).Retains
      "$${k} ${local.price} ${var.x}${local.count}\x7b${ }${local.late}${ local.price }" ∧
    (environment [("price", ⟨"price", .null, .string "5$", true⟩),
        ("count", ⟨"count", .null, .int 3, true⟩),
        ("late", ⟨"late", .null, .object [], false⟩)]).substitute (.string
      "$${k} ${local.price} ${var.x}${local.count}\x7b${ }${local.late}${ local.price }") =
      .string "$${k} 5$ ${var.x}3\x7b${ }${local.late}5$" := by
  have hplain : AllPlain [("price", ⟨"price", .null, .string "5$", true⟩),
      ("count", ⟨"count", .null, .int 3, true⟩), ("late", ⟨"late", .null, .object [], false⟩)] :=
    allPlain_of_forall_mem (by decide +kernel)
  have htraversals : AllTraversals
      "$${k} ${local.price} ${var.x}${local.count}\x7b${ }${local.late}${ local.price }" := by
    decide +kernel
  have hretains := (retains_iff_no_final_dollar hplain).1 _ htraversals (by decide +kernel)
  exact ⟨hplain, htraversals, hretains.1, by decide +kernel⟩

/-- A value that is a dollar sign takes the external reference behind it out of the text, and in front
of a brace it puts a reference into the text. -/
theorem not_retains_dollar :
    AllPlain [("a", ⟨"a", .string "$", .string "$", true⟩)] ∧
    AllTraversals "${local.a}${var.x}" ∧
    (environment [("a", ⟨"a", .string "$", .string "$", true⟩)]).substitute
      (.string "${local.a}${var.x}") = .string "$${var.x}" ∧
    ¬ (environment [("a", ⟨"a", .string "$", .string "$", true⟩)]).Retains "${local.a}${var.x}" ∧
    AllTraversals "${local.a}{local.b}" ∧
    (environment [("a", ⟨"a", .string "$", .string "$", true⟩)]).substitute
      (.string "${local.a}{local.b}") = .string "${local.b}" ∧
    ¬ (environment [("a", ⟨"a", .string "$", .string "$", true⟩)]).Retains
      "${local.a}{local.b}" := by
  refine ⟨allPlain_of_forall_mem (by decide +kernel), ?_⟩
  decide +kernel

end LocalEntry

end InfraConfig
