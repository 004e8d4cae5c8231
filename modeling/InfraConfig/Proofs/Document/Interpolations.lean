import InfraConfig.Document.Declarations
import InfraConfig.Proofs.Document.Sources
import InfraConfig.Proofs.Template.Joining

/-! The interpolations of a quoted text and the spans of the value that it declares. The value is the
text of the parts, in which nothing is escaped again: a literal text that reads like an interpolation
becomes a span, and one that ends in a dollar sign or opens an interpolation takes away the one behind
it. The spans are the interpolations that were written exactly if no literal text does either
(`spans_quoted`). -/
namespace InfraConfig.Document

open Template (Clears Span clears_of_unopened pieces spans spansFrom spansFrom_eq_nil_iff
  spansFrom_interpolation_iff spans_of_unopened)
open Text (Placed allBlank map_item_placedFrom mem_placedFrom placedFrom trim trim_eq_nil_iff
  utf8Length utf8Length_append)

variable {parts : List Part}

namespace Part

/-- The source of an interpolation. -/
def source? : Part → Option (List Char)
  | interpolation source => some source
  | _ => none

/-- Literal text, or an interpolation whose source holds no closing brace. -/
def isPlain : Part → Bool
  | literal _ => true
  | interpolation source => !source.contains '}'
  | directive _ => false

end Part

/-- The interpolations among parts, at the bytes where they are written. -/
def interpolationsFrom (offset : Nat) (parts : List Part) : List Span :=
  (placedFrom Part.text Part.source? offset parts).map fun p => ⟨p.start, p.stop, p.item⟩

/-- The interpolations of a template, at their bytes in its text. -/
def interpolations (parts : List Part) : List Span := interpolationsFrom 0 parts

/-- The literal text up to the first interpolation, behind what is pending, between the interpolations
and behind the last one. -/
def literalRuns (pending : List Char) : List Part → List (List Char)
  | [] => [pending]
  | .literal text :: parts => literalRuns (pending ++ text) parts
  | _ :: parts => pending :: literalRuns [] parts

/-- No literal text holds a span or takes away the interpolation behind it. -/
def Inert (runs : List (List Char)) : Prop :=
  (∀ run ∈ runs, spans run = []) ∧ ∀ run ∈ runs.dropLast, Clears run

instance : DecidablePred Inert := fun _ => inferInstanceAs (Decidable (_ ∧ _))

theorem literalRuns_ne_nil (pending : List Char) (parts : List Part) :
    literalRuns pending parts ≠ [] := by
  fun_induction literalRuns pending parts with
  | case1 => simp
  | case2 pending text parts ih => exact ih
  | case3 => simp

theorem inert_cons {run : List Char} {runs : List (List Char)} (hne : runs ≠ []) :
    Inert (run :: runs) ↔ (spans run = [] ∧ Clears run) ∧ Inert runs := by
  simp only [Inert, List.dropLast_cons_of_ne_nil hne, List.forall_mem_cons]
  exact and_and_and_comm

/-- Literal text in which no interpolation is opened is inert if none of it ends in a dollar sign in
front of an interpolation. -/
theorem inert_of_unopened {runs : List (List Char)} (hopen : ∀ run ∈ runs, ¬ ['$', '{'] <:+: run)
    (hlast : ∀ run ∈ runs.dropLast, run.getLast? ≠ some '$') : Inert runs :=
  ⟨fun run hrun => spans_of_unopened (hopen run hrun), fun run hrun =>
    clears_of_unopened (hopen run (List.dropLast_subset _ hrun)) (hlast run hrun)⟩

theorem start_of_mem_interpolationsFrom {offset : Nat} {span : Span}
    (h : span ∈ interpolationsFrom offset parts) : offset ≤ span.start := by
  obtain ⟨p, hp, rfl⟩ := List.mem_map.1 h
  obtain ⟨front, -, -, -, -, hstart, -⟩ := mem_placedFrom.1 hp
  show offset ≤ p.start
  omega

/-- The spans of a template that stands behind pending literal text are the interpolations that were
written in it exactly if all literal text is inert. -/
theorem spansFrom_templateText (hplain : ∀ part ∈ parts, part.isPlain = true)
    (hsources : ∀ source, .interpolation source ∈ parts → allBlank source = false)
    (offset : Nat) (pending : List Char) :
    spansFrom offset (pieces (pending ++ templateText parts)) =
        interpolationsFrom (offset + utf8Length pending) parts ↔
      Inert (literalRuns pending parts) := by
  induction parts generalizing offset pending with
  | nil =>
    have hspans : spansFrom offset (pieces pending) = [] ↔ spans pending = [] := by
      rw [spans, spansFrom_eq_nil_iff, spansFrom_eq_nil_iff]
    simpa [templateText, interpolationsFrom, placedFrom, literalRuns, Inert] using hspans
  | cons part parts ih =>
    have ih := ih (fun other hother => hplain other (List.mem_cons_of_mem part hother))
      (fun source hsource => hsources source (List.mem_cons_of_mem part hsource))
    rw [templateText, List.flatMap_cons, ← templateText]
    cases part with
    | literal text =>
      have hmore := ih offset (pending ++ text)
      rwa [utf8Length_append, ← Nat.add_assoc, List.append_assoc] at hmore
    | directive source => exact absurd (hplain _ List.mem_cons_self) (by simp [Part.isPlain])
    | interpolation source =>
      have hbrace : '}' ∉ source := by simpa [Part.isPlain] using hplain _ List.mem_cons_self
      let stop := offset + utf8Length pending + utf8Length (Part.interpolation source).text
      have hmore := ih stop []
      rw [utf8Length, Nat.add_zero, List.nil_append] at hmore
      have hruns : literalRuns pending (.interpolation source :: parts) =
          pending :: literalRuns [] parts := rfl
      rw [hruns, inert_cons (literalRuns_ne_nil [] parts), ← hmore]
      apply spansFrom_interpolation_iff (hsources source List.mem_cons_self) hbrace rfl rfl
      intro span hspan
      exact Nat.le_trans (Nat.le_add_right _ _) (start_of_mem_interpolationsFrom hspan)

/-! ### Quoted texts -/

theorem map_inner_interpolations (parts : List Part) :
    (interpolations parts).map Span.inner = (parts.filterMap Part.source?).map trim := by
  have hitems : (placedFrom Part.text Part.source? 0 parts).map Placed.item =
      parts.filterMap Part.source? := map_item_placedFrom 0 parts
  rw [interpolations, interpolationsFrom, ← hitems, List.map_map, List.map_map]
  rfl

theorem interpolation_mem_of_mem_sources {source : List Char}
    (h : source ∈ parts.filterMap Part.source?) : .interpolation source ∈ parts := by
  obtain ⟨part, hpart, hsource⟩ := List.mem_filterMap.1 h
  cases part with
  | interpolation source' =>
    cases hsource
    exact hpart
  | literal text => cases hsource
  | directive source' => cases hsource

theorem templateText_of_literalText? {text : List Char} (h : literalText? parts = some text) :
    templateText parts = text := by
  unfold literalText? at h
  split at h
  · cases h
    rfl
  · cases h
    simp [templateText, Part.text]
  · cases h

/-- A quoted text is a term if its parts are read up to the closing quote. -/
theorem exists_quoted {fuel : Nat} {s rest : List Char}
    (h : readParts? fuel .quotes false s = some (parts, '"' :: rest)) :
    ∃ e, readTerm? (fuel + 1) ('"' :: s) = some (e, rest) := by
  have hquote : after? "\"" ('"' :: rest) = some rest := rfl
  cases htext : literalText? parts with
  | none => exact ⟨.template parts, by simp [readTerm?, h, hquote, htext]⟩
  | some text => exact ⟨.quoted text, by simp [readTerm?, h, hquote, htext]⟩

/-- A quoted text declares the text of its parts. -/
theorem value_of_quoted {fuel : Nat} {s rest : List Char} {e : Expr}
    (h : readTerm? (fuel + 1) ('"' :: s) = some (e, rest)) :
    ∃ parts, readParts? fuel .quotes false s = some (parts, '"' :: rest) ∧
      e.value = .string (String.ofList (templateText parts)) := by
  obtain ⟨⟨parts, mid⟩, hparts, hread⟩ := Option.bind_eq_some_iff.1 h
  obtain ⟨after, hquote, hread⟩ := Option.bind_eq_some_iff.1 hread
  have hmid : mid = '"' :: after := after?_eq hquote
  rw [hmid] at hparts
  refine ⟨parts, ?_⟩
  split at hread
  · next text htext =>
    cases hread
    rw [templateText_of_literalText? htext]
    exact ⟨hparts, rfl⟩
  · cases hread
    exact ⟨hparts, rfl⟩

/-- A quoted text declares the text of its parts. Where it holds no directive and no interpolation
whose source holds a closing brace, the spans of the value are the interpolations as they were written,
one for each and with its source inside, exactly if no literal text holds a span of its own or takes
away the interpolation behind it. So they are if no literal text opens an interpolation, or ends in a
dollar sign in front of one. -/
theorem spans_quoted {fuel : Nat} {s rest : List Char} {e : Expr}
    (h : readTerm? (fuel + 1) ('"' :: s) = some (e, rest)) :
    ∃ parts, readParts? fuel .quotes false s = some (parts, '"' :: rest) ∧
      e.value = .string (String.ofList (templateText parts)) ∧
      ((∀ part ∈ parts, part.isPlain = true) →
        (interpolations parts).map Span.inner = parts.filterMap Part.source? ∧
        (spans (templateText parts) = interpolations parts ↔ Inert (literalRuns [] parts)) ∧
        ((∀ run ∈ literalRuns [] parts, ¬ ['$', '{'] <:+: run) →
          (∀ run ∈ (literalRuns [] parts).dropLast, run.getLast? ≠ some '$') →
          spans (templateText parts) = interpolations parts)) := by
  obtain ⟨parts, hparts, hvalue⟩ := value_of_quoted h
  have hsources : ∀ source, .interpolation source ∈ parts → trim source = source ∧ source ≠ [] :=
    fun source hsource => trim_of_interpolation_mem hparts hsource
  refine ⟨parts, hparts, hvalue, fun hplain => ?_⟩
  have hspans : spans (templateText parts) = interpolations parts ↔ Inert (literalRuns [] parts) := by
    have hblank : ∀ source, .interpolation source ∈ parts → allBlank source = false := by
      intro source hsource
      obtain ⟨htrim, hne⟩ := hsources source hsource
      rwa [← Bool.not_eq_true, ← trim_eq_nil_iff, htrim]
    have hfrom := spansFrom_templateText hplain hblank 0 []
    simpa [spans, interpolations, utf8Length] using hfrom
  refine ⟨?_, hspans, fun hopen hlast => hspans.2 (inert_of_unopened hopen hlast)⟩
  rw [map_inner_interpolations]
  refine (List.map_congr_left fun source hsource => ?_).trans (List.map_id _)
  exact (hsources source (interpolation_mem_of_mem_sources hsource)).1

/-- Braces and dollar signs in literal text, blanks in an interpolation, and text behind the quotes. -/
theorem spans_quoted_braces :
    (∃ e, readTerm? 41 ('"' :: "a{b}-${ local.x }-${var.y}$\" more".toList) =
        some (e, " more".toList) ∧ e.value = .string "a{b}-${local.x}-${var.y}$") ∧
    Inert ["a{b}-".toList, ['-'], ['$']] ∧
    spans "a{b}-${local.x}-${var.y}$".toList =
      [⟨5, 15, "local.x".toList⟩, ⟨16, 24, "var.y".toList⟩] := by
  let parts : List Part := [.literal "a{b}-".toList, .interpolation "local.x".toList, .literal ['-'],
    .interpolation "var.y".toList, .literal ['$']]
  have hparts : readParts? 40 .quotes false "a{b}-${ local.x }-${var.y}$\" more".toList =
      some (parts, '"' :: " more".toList) := by
    decide +kernel
  have hinert : Inert (literalRuns [] parts) := by
    decide +kernel
  have htext : templateText parts = "a{b}-${local.x}-${var.y}$".toList := by
    decide +kernel
  have hplain : parts.all Part.isPlain = true := by
    decide +kernel
  obtain ⟨e, hread⟩ := exists_quoted hparts
  obtain ⟨parts', hparts', hvalue, hspans⟩ := spans_quoted hread
  rw [hparts] at hparts'
  cases hparts'
  obtain ⟨-, hiff, -⟩ := hspans (List.all_eq_true.1 hplain)
  rw [htext] at hiff hvalue
  rw [String.ofList_toList] at hvalue
  exact ⟨⟨e, hread, hvalue⟩, hinert, hiff.2 hinert⟩

/-- An escaped interpolation comes to life, and a dollar sign that is written by its number takes away
the interpolation behind it. -/
theorem spans_quoted_escaped :
    readParts? 20 .quotes false "$${local.x}\"".toList =
      some ([.literal "${local.x}".toList], ['"']) ∧
    interpolations [.literal "${local.x}".toList] = [] ∧
    spans (templateText [.literal "${local.x}".toList]) = [⟨0, 10, "local.x".toList⟩] ∧
    readParts? 20 .quotes false "\\u0024${local.x}\"".toList =
      some ([.literal ['$'], .interpolation "local.x".toList], ['"']) ∧
    interpolations [.literal ['$'], .interpolation "local.x".toList] =
      [⟨1, 11, "local.x".toList⟩] ∧
    spans (templateText [.literal ['$'], .interpolation "local.x".toList]) = [] := by
  decide +kernel

end InfraConfig.Document
