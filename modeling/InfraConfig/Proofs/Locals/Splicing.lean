import InfraConfig.Proofs.Locals.Coverage
import InfraConfig.Proofs.Reference.Quoting
import InfraConfig.Proofs.Template.Reading

/-! What substitution changes of a text. The pieces of a text are filled one by one; the result is
the text with other texts in the place of its spans, cut out at their bytes, and nothing else
(`splice?_spans`), and likewise for the references inside of a span (`splice?_embedded`). Where no
reference of a value resolves, the value stays as it is (`substitute_frame`). -/
namespace InfraConfig

open Text (placedFrom_bind splice? splice?_parts)
open Template (Piece pieces spans spansFrom_eq)

namespace Environment

variable (env : Environment)

theorem fillPiece_eq (p : Piece) :
    (p.live?.bind fun raw => some (env.fillPiece (.interpolation raw))).getD p.chars =
      env.fillPiece p := by
  cases p with
  | char c => rfl
  | escape => rfl
  | interpolation raw =>
    cases hblank : Text.allBlank raw with
    | true => simp [Piece.live?, fillPiece, hblank]
    | false => simp [Piece.live?, hblank]

/-- The text that is filled is the text with its spans replaced, and nothing else of it changed. -/
theorem splice?_spans (s : List Char) :
    splice? s 0 ((spans s).map fun span =>
        ⟨span.start, span.stop, env.fillPiece (.interpolation span.raw)⟩) =
      some (env.fillText s) := by
  have hparts := splice?_parts Piece.chars
    (fun p => p.live?.bind fun raw => some (env.fillPiece (.interpolation raw))) (pieces s)
  rw [Template.chars_pieces, placedFrom_bind] at hparts
  simp only [fillPiece_eq, Option.map_some, List.filterMap_eq_map'] at hparts
  rw [spans, spansFrom_eq, List.map_map]
  exact hparts

theorem fillFragment_eq (fragment : Fragment) :
    (fragment.reference?.bind fun r => (env.resolve r).map Value.chars).getD fragment.chars =
      env.fillFragment fragment := by
  cases fragment with
  | text chars => rfl
  | reference chars r =>
    rw [fillFragment]
    cases hr : env.resolve r <;> simp [Fragment.reference?, Fragment.chars, hr]

/-- A compound expression that is filled is the expression with those of its references replaced
that resolve. -/
theorem splice?_embedded (raw : List Char) :
    splice? raw 0 ((Reference.embedded raw).filterMap fun e =>
        (env.resolve e.reference).map fun value => ⟨e.start, e.stop, value.chars⟩) =
      some ((Reference.fragments raw).flatMap env.fillFragment) := by
  have hparts := splice?_parts Fragment.chars
    (fun fragment => fragment.reference?.bind fun r => (env.resolve r).map Value.chars)
    (Reference.fragments raw)
  rw [Reference.chars_fragments, placedFrom_bind] at hparts
  simp only [fillFragment_eq, Option.map_map] at hparts
  rw [Reference.embedded, Reference.embeddedFrom_eq, List.filterMap_map]
  exact hparts

end Environment

/-! ### Values whose references are not known -/

namespace Environment

/-- The environment without known values. -/
def empty : Environment := fun _ => none

theorem resolve_empty : empty.resolve = fun _ => none := by
  funext r
  cases r <;> rfl

theorem fillFragment_empty : empty.fillFragment = Fragment.chars := by
  funext fragment
  cases fragment with
  | text chars => rfl
  | reference chars r => rw [fillFragment, resolve_empty]; rfl

theorem fillPiece_empty : empty.fillPiece = Piece.chars := by
  funext p
  cases p with
  | char c => rfl
  | escape => rfl
  | interpolation raw =>
    simp only [fillPiece, resolve_empty, fillFragment_empty, Reference.chars_fragments]
    split
    · rfl
    · split <;> rfl

theorem substituteText_empty (s : List Char) :
    empty.substituteText s = .string (String.ofList s) := by
  have hnone : ((Template.whole? s).bind fun raw =>
      (Reference.ofChars? raw).bind empty.resolve) = none := by
    cases Template.whole? s with
    | none => rfl
    | some raw =>
      show (Reference.ofChars? raw).bind empty.resolve = none
      rw [resolve_empty]
      cases Reference.ofChars? raw <;> rfl
  rw [substituteText, hnone, fillText, fillPiece_empty, Template.chars_pieces]

mutual

/-- Without known values nothing is replaced. -/
theorem substitute_empty : (v : Value) → empty.substitute v = v
  | .string s => by rw [substitute, substituteText_empty, String.ofList_toList]
  | .list items => congrArg Value.list (substituteItems_empty items)
  | .object members => congrArg Value.object (substituteMembers_empty members)
  | .null | .bool _ | .number _ => rfl

theorem substituteItems_empty : (items : List Value) → empty.substituteItems items = items
  | [] => rfl
  | item :: rest => by
    rw [substituteItems, substitute_empty item, substituteItems_empty rest]

theorem substituteMembers_empty :
    (members : List (String × Value)) → empty.substituteMembers members = members
  | [] => rfl
  | (key, value) :: rest => by
    rw [substituteMembers, substitute_empty value, substituteMembers_empty rest]

end

end Environment

namespace LocalEntry

/-- A reference that is external, or to a local value that is absent, not evaluated, or of a value
into which the accesses do not lead. -/
def Unresolved (entries : Keyed LocalEntry) : Reference → Prop
  | .external _ => True
  | .localValue name path =>
    ∀ entry, entries.lookup name = some entry → entry.evaluated = true →
      entry.value.navigate path = none

theorem resolve_eq_none_iff {entries : Keyed LocalEntry} {r : Reference} :
    (environment entries).resolve r = none ↔ Unresolved entries r := by
  cases r with
  | external written => simp [Environment.resolve, Unresolved]
  | localValue name path =>
    cases hlookup : entries.lookup name with
    | none => simp [Environment.resolve, environment, Unresolved, hlookup]
    | some entry =>
      cases hevaluated : entry.evaluated with
      | false => simp [Environment.resolve, environment, Unresolved, hlookup, hevaluated]
      | true => simp [Environment.resolve, environment, Unresolved, hlookup, hevaluated]

theorem substitute_eq_self {entries : Keyed LocalEntry} {v : Value}
    (h : ∀ r ∈ v.references, Unresolved entries r) : (environment entries).substitute v = v := by
  calc (environment entries).substitute v = Environment.empty.substitute v := by
        apply Environment.substitute_congr_resolve
        intro r hr
        rw [Environment.resolve_empty]
        exact resolve_eq_none_iff.2 (h r (List.mem_eraseDups.2 hr))
    _ = v := Environment.substitute_empty v

/-- A value of whose references none resolves stays as it is. Of any text only the bytes of its
spans are written anew, and of a compound expression only those of the references that resolve. -/
theorem substitute_frame (entries : Keyed LocalEntry) :
    (∀ v : Value, (∀ r ∈ v.references, Unresolved entries r) →
      (environment entries).substitute v = v) ∧
    (∀ s, splice? s 0 ((spans s).map fun span =>
        ⟨span.start, span.stop, (environment entries).fillPiece (.interpolation span.raw)⟩) =
      some ((environment entries).fillText s)) ∧
    ∀ raw, splice? raw 0 ((Reference.embedded raw).filterMap fun e =>
        ((environment entries).resolve e.reference).map fun value =>
          ⟨e.start, e.stop, value.chars⟩) =
      some ((Reference.fragments raw).flatMap (environment entries).fillFragment) :=
  ⟨fun _ h => substitute_eq_self h, (environment entries).splice?_spans,
    (environment entries).splice?_embedded⟩

/-- A value with an escape, a blank interpolation, one that is never closed, an external reference, a
local value that is absent, one inside of a compound expression with a quoted text, and accesses. -/
def mixedSettings : Value :=
  .object [("é", .list [.string "$${a} ${ } ${ var.x } ${local.gone[0]}", .null]),
    ("b", .string "$\x7bupper(\"local.é\", local.late)\x7d-${local.tags.zone} $\x7blocal.tags"),
    ("a", .string "${local.tags.zone}")]

/-- Of the local values of `mixedSettings` one is not evaluated, and the accesses do not lead into the
value of the other. -/
theorem substitute_mixedSettings :
    (∀ r ∈ mixedSettings.references,
      Unresolved [("late", ⟨"late", .string "x", .null, false⟩),
        ("tags", ⟨"tags", .object [], .object [("env", .string "prod")], true⟩)] r) ∧
    (environment [("late", ⟨"late", .string "x", .null, false⟩),
      ("tags", ⟨"tags", .object [], .object [("env", .string "prod")], true⟩)]).substitute
        mixedSettings = mixedSettings := by
  have hunresolved : ∀ r ∈ mixedSettings.references,
      Unresolved [("late", ⟨"late", .string "x", .null, false⟩),
        ("tags", ⟨"tags", .object [], .object [("env", .string "prod")], true⟩)] r := by
    have hreferences : mixedSettings.references = [.external "var.x", .localValue "gone" [.index 0],
        .localValue "late" [], .localValue "tags" [.attribute "zone"]] := by decide +kernel
    rw [hreferences]
    intro r hr
    rw [← resolve_eq_none_iff]
    revert r
    decide +kernel
  exact ⟨hunresolved, (substitute_frame _).1 _ hunresolved⟩

end LocalEntry

end InfraConfig
