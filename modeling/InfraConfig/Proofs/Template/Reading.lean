import InfraConfig.Proofs.Text.Slice
import InfraConfig.Template.Basic

/-! The grammar of texts with interpolations. `Reading s ps rest` says that a text is read from left
to right as the pieces `ps`, and that reading stops in front of `rest`: at the end of the text, or at
an interpolation that is never closed. Every text has a reading (`exists_reading`), and `pieces` is
it (`Reading.pieces_eq`). The spans of a text are then exactly the interpolations of its reading that
are not blank, each at its bytes, between delimiters and not escaped (`spans_of_reading`). -/
namespace InfraConfig.Template

open InfraConfig.Text (allBlank isSome_slice?_iff mem_placedFrom pairwise_placedFrom placedFrom slice?
  slice?_append utf8Length utf8Length_append)

/-- The pieces that a text is read as, up to the rest in front of which reading stops. -/
inductive Reading : List Char → List Piece → List Char → Prop where
  | done : Reading [] [] []
  /-- Reading stops at an interpolation that is never closed. -/
  | unclosed {s : List Char} (noClose : '}' ∉ s) : Reading ('$' :: '{' :: s) [] ('$' :: '{' :: s)
  | escape {s rest : List Char} {ps : List Piece} (more : Reading s ps rest) :
      Reading ('$' :: '$' :: '{' :: s) (.escape :: ps) rest
  /-- The first closing brace ends an interpolation. -/
  | interpolation {inner s rest : List Char} {ps : List Piece} (noClose : '}' ∉ inner)
      (more : Reading s ps rest) :
      Reading ('$' :: '{' :: (inner ++ '}' :: s)) (.interpolation inner :: ps) rest
  | char {c : Char} {s rest : List Char} {ps : List Piece} (unopened : ¬ ['$', '{'] <+: c :: s)
      (unescaped : ¬ ['$', '$', '{'] <+: c :: s) (more : Reading s ps rest) :
      Reading (c :: s) (.char c :: ps) rest

variable {s rest : List Char} {ps : List Piece}

theorem closing?_eq_none_iff : closing? s = none ↔ '}' ∉ s := by
  constructor
  · intro h hmem
    obtain ⟨inner, rest, rfl, hinner⟩ := List.eq_append_cons_of_mem hmem
    rw [closing?_append hinner] at h
    cases h
  · intro h
    rw [Option.eq_none_iff_forall_ne_some]
    intro found hfound
    apply h
    rw [closing?_eq hfound]
    simp

theorem pieces_unclosed (h : '}' ∉ s) : pieces ('$' :: '{' :: s) = ('$' :: '{' :: s).map .char := by
  have hclosing := closing?_eq_none_iff.2 h
  rw [pieces]
  split
  · next heq =>
    rw [hclosing] at heq
    cases heq
  · rfl

theorem pieces_char {c : Char} (hopen : ¬ ['$', '{'] <+: c :: s)
    (hescape : ¬ ['$', '$', '{'] <+: c :: s) : pieces (c :: s) = .char c :: pieces s := by
  rw [pieces.eq_4]
  · intro t hc hs
    exact hescape ⟨t, by rw [hc, hs]; rfl⟩
  · intro t hc hs
    exact hopen ⟨t, by rw [hc, hs]; rfl⟩

/-- Every text has a reading. -/
theorem exists_reading (s : List Char) : ∃ ps rest, Reading s ps rest := by
  fun_induction pieces s with
  | case1 => exact ⟨[], [], .done⟩
  | case2 s ih =>
    obtain ⟨ps, rest, more⟩ := ih
    exact ⟨_, _, .escape more⟩
  | case3 s inner rest hclosing ih =>
    obtain ⟨ps, rest', more⟩ := ih
    rw [closing?_eq hclosing]
    exact ⟨_, _, .interpolation (not_mem_of_closing? hclosing) more⟩
  | case4 s hclosing => exact ⟨_, _, .unclosed (closing?_eq_none_iff.1 hclosing)⟩
  | case5 c s hescape hopen ih =>
    obtain ⟨ps, rest, more⟩ := ih
    refine ⟨_, _, .char ?_ ?_ more⟩
    · intro h
      obtain ⟨t, ht⟩ := h
      cases ht
      exact hopen t rfl rfl
    · intro h
      obtain ⟨t, ht⟩ := h
      cases ht
      exact hescape t rfl rfl

namespace Reading

theorem pieces_eq (h : Reading s ps rest) : pieces s = ps ++ rest.map .char := by
  induction h with
  | done => rw [pieces]; rfl
  | unclosed noClose => exact pieces_unclosed noClose
  | escape _ ih => rw [pieces, ih]; rfl
  | interpolation noClose _ ih =>
    have hpieces := pieces_interpolation noClose
    simp only [List.cons_append] at hpieces
    rw [hpieces, ih]
    rfl
  | char unopened unescaped _ ih => rw [pieces_char unopened unescaped, ih]; rfl

theorem chars_eq (h : Reading s ps rest) : s = ps.flatMap Piece.chars ++ rest := by
  have hchars := chars_pieces s
  rw [h.pieces_eq, List.flatMap_append, flatMap_chars_map_char] at hchars
  exact hchars.symm

/-- Reading stops only at an interpolation that is never closed. -/
theorem stops (h : Reading s ps rest) : rest = [] ∨ ∃ t, rest = '$' :: '{' :: t ∧ '}' ∉ t := by
  induction h with
  | done => exact .inl rfl
  | unclosed noClose => exact .inr ⟨_, rfl, noClose⟩
  | escape _ ih => exact ih
  | interpolation _ _ ih => exact ih
  | char _ _ _ ih => exact ih

theorem getLast?_append_ne {front more : List Char} (hmore : more.getLast? ≠ some '$')
    (hfront : more = [] → front.getLast? ≠ some '$') : (front ++ more).getLast? ≠ some '$' := by
  rw [List.getLast?_append]
  cases hlast : more.getLast? with
  | none => exact hfront (List.getLast?_eq_none_iff.1 hlast)
  | some d => rwa [hlast] at hmore

/-- No dollar sign stands in front of an interpolation. -/
theorem unescaped {raw : List Char} {front back : List Piece}
    (h : Reading s (front ++ .interpolation raw :: back) rest) :
    (front.flatMap Piece.chars).getLast? ≠ some '$' := by
  generalize hps : front ++ .interpolation raw :: back = ps at h
  -- the reading of what follows the first piece of `front` is the shorter one
  induction h generalizing front with
  | done => simp at hps
  | unclosed => simp at hps
  | escape more ih =>
    cases front with
    | nil => cases hps
    | cons p front =>
      obtain ⟨rfl, hmore⟩ := List.cons.inj hps
      exact getLast?_append_ne (ih hmore) fun _ => by decide
  | interpolation _ more ih =>
    cases front with
    | nil => nofun
    | cons p front =>
      obtain ⟨rfl, hmore⟩ := List.cons.inj hps
      apply getLast?_append_ne (ih hmore)
      intro _
      rw [Piece.chars, List.getLast?_concat]
      decide
  | @char c s rest ps _ unescaped more ih =>
    cases front with
    | nil => cases hps
    | cons p front =>
      obtain ⟨rfl, hmore⟩ := List.cons.inj hps
      change front ++ _ = ps at hmore
      apply getLast?_append_ne (ih hmore)
      intro hempty hdollar
      -- a dollar sign here would make an escape of the interpolation behind it
      obtain rfl : c = '$' := by simpa [Piece.chars] using hdollar
      have hnext := more.chars_eq
      rw [← hmore, List.flatMap_append, hempty] at hnext
      apply unescaped
      rw [hnext]
      exact ⟨_, rfl⟩

end Reading

/-! ### Texts put together -/

/-- Whether a text starts with a brace or with an interpolation. -/
def opens (t : List Char) : Bool := ['{'].isPrefixOf t || ['$', '{'].isPrefixOf t

theorem opens_eq_false_iff {t : List Char} :
    opens t = false ↔ ¬ ['{'] <+: t ∧ ¬ ['$', '{'] <+: t := by
  simp [opens, ← List.isPrefixOf_iff_prefix]

theorem pieces_of_reading_nil {s : List Char} {qs : List Piece} (h : Reading s qs []) :
    pieces s = qs := by
  rw [h.pieces_eq, List.map_nil, List.append_nil]

namespace Reading

variable {t : List Char} {qs : List Piece}

theorem not_opens_char {c : Char} (h : Reading t (.char c :: qs) rest) : ¬ ['$', '{'] <+: t := by
  cases h with
  | char unopened _ _ => exact unopened

theorem interpolation_append {raw : List Char} (noClose : '}' ∉ raw) (h : Reading t qs rest) :
    Reading ((Piece.interpolation raw).chars ++ t) (.interpolation raw :: qs) rest := by
  simpa [Piece.chars] using Reading.interpolation noClose h

/-- A character that takes nothing of what is behind it with it. -/
theorem literal {c : Char} (hopen : c = '$' → opens t = false) (h : Reading t qs rest) :
    Reading (c :: t) (.char c :: qs) rest := by
  refine .char ?_ ?_ h
  · intro hprefix
    obtain ⟨hdollar, hbrace⟩ := List.cons_prefix_cons.1 hprefix
    exact (opens_eq_false_iff.1 (hopen hdollar.symm)).1 hbrace
  · intro hprefix
    obtain ⟨hdollar, hmore⟩ := List.cons_prefix_cons.1 hprefix
    exact (opens_eq_false_iff.1 (hopen hdollar.symm)).2 hmore

/-- A text without an opening brace is read as characters in front of what is read behind it, unless
it ends in a dollar sign and what is behind it starts with a brace or with an interpolation. -/
theorem paste {v : List Char} (hv : '{' ∉ v)
    (hend : v.getLast? = some '$' → opens t = false) (h : Reading t qs rest) :
    Reading (v ++ t) (v.map .char ++ qs) rest := by
  induction v with
  | nil => exact h
  | cons c v ih =>
    obtain ⟨-, hv'⟩ := not_or.1 (mt List.mem_cons.2 hv)
    have hmore := ih hv' fun hlast => hend (by rw [List.getLast?_cons, hlast]; rfl)
    refine literal ?_ hmore
    intro hdollar
    cases v with
    | nil => exact hend (by rw [hdollar]; rfl)
    | cons d v =>
      rw [opens_eq_false_iff]
      refine ⟨fun hbrace => ?_, hmore.not_opens_char⟩
      obtain ⟨rfl, -⟩ := List.cons_prefix_cons.1 hbrace
      exact hv' List.mem_cons_self

theorem of_not_mem {v : List Char} (hv : '{' ∉ v) : Reading v (v.map .char) [] := by
  have hreading := Reading.done.paste hv fun _ => rfl
  rwa [List.append_nil, List.append_nil] at hreading

end Reading

/-! ### Spans -/

/-- The text of an interpolation that is not blank. -/
def Piece.live? : Piece → Option (List Char)
  | .interpolation raw => if allBlank raw then none else some raw
  | _ => none

theorem live?_eq_some_iff {p : Piece} {raw : List Char} :
    p.live? = some raw ↔ p = .interpolation raw ∧ allBlank raw = false := by
  cases p with
  | char c => simp [Piece.live?]
  | escape => simp [Piece.live?]
  | interpolation inner =>
    simp only [Piece.live?, Option.ite_none_left_eq_some, Option.some.injEq,
      Piece.interpolation.injEq, Bool.not_eq_true]
    constructor
    · intro h
      obtain ⟨hblank, rfl⟩ := h
      exact ⟨rfl, hblank⟩
    · intro h
      obtain ⟨rfl, hblank⟩ := h
      exact ⟨hblank, rfl⟩

theorem spansFrom_eq (offset : Nat) (ps : List Piece) :
    spansFrom offset ps =
      (placedFrom Piece.chars Piece.live? offset ps).map fun p => ⟨p.start, p.stop, p.item⟩ := by
  induction ps generalizing offset with
  | nil => rfl
  | cons p ps ih =>
    cases p with
    | char c => exact ih _
    | escape => exact ih _
    | interpolation raw =>
      simp only [spansFrom, placedFrom, Piece.live?, ih]
      split <;> rfl

/-- The spans of pieces are the interpolations among them that are not blank, at the bytes where they
stand. -/
theorem mem_spansFrom {offset : Nat} {span : Span} :
    span ∈ spansFrom offset ps ↔
      ∃ front back, ps = front ++ .interpolation span.raw :: back ∧ allBlank span.raw = false ∧
        span.start = offset + utf8Length (front.flatMap Piece.chars) ∧
        span.stop = span.start + (Piece.interpolation span.raw).byteLength := by
  have hplaced : span ∈ spansFrom offset ps ↔
      ⟨span.start, span.stop, span.raw⟩ ∈ placedFrom Piece.chars Piece.live? offset ps := by
    rw [spansFrom_eq, List.mem_map]
    constructor
    · intro h
      obtain ⟨p, hp, rfl⟩ := h
      exact hp
    · exact fun h => ⟨_, h, rfl⟩
  rw [hplaced, mem_placedFrom]
  constructor
  · intro h
    obtain ⟨front, p, back, rfl, hlive, hstart, hstop⟩ := h
    obtain ⟨rfl, hblank⟩ := live?_eq_some_iff.1 hlive
    exact ⟨front, back, rfl, hblank, hstart, hstop⟩
  · intro h
    obtain ⟨front, back, rfl, hblank, hstart, hstop⟩ := h
    exact ⟨front, _, back, rfl, live?_eq_some_iff.2 ⟨rfl, hblank⟩, hstart, hstop⟩

theorem exists_span_iff {s raw : List Char} :
    (∃ span ∈ spans s, span.raw = raw) ↔
      .interpolation raw ∈ pieces s ∧ allBlank raw = false := by
  constructor
  · intro h
    obtain ⟨span, hspan, rfl⟩ := h
    obtain ⟨front, back, hpieces, hblank, -, -⟩ := mem_spansFrom.1 hspan
    exact ⟨by simp [hpieces], hblank⟩
  · intro h
    obtain ⟨hmem, hblank⟩ := h
    obtain ⟨front, back, hpieces⟩ := List.append_of_mem hmem
    let start := 0 + utf8Length (front.flatMap Piece.chars)
    exact ⟨⟨start, start + (Piece.interpolation raw).byteLength, raw⟩,
      mem_spansFrom.2 ⟨front, back, hpieces, hblank, rfl, rfl⟩, rfl⟩

/-- One of two spans has ended where the other starts. -/
theorem pairwise_spansFrom (offset : Nat) (ps : List Piece) :
    (spansFrom offset ps).Pairwise fun a b => a.start < b.start ∧ a.stop ≤ b.start := by
  have hstops : (spansFrom offset ps).Pairwise fun a b => a.stop ≤ b.start := by
    rw [spansFrom_eq, List.pairwise_map]
    exact pairwise_placedFrom offset ps
  refine hstops.imp_of_mem ?_
  intro a b ha _ hab
  obtain ⟨-, -, -, -, -, hstop⟩ := mem_spansFrom.1 ha
  have hlength : 0 < (Piece.interpolation a.raw).byteLength := Text.utf8Length_cons_pos _ _
  exact ⟨by omega, hab⟩

/-- What is read as characters has no spans. -/
theorem spansFrom_append_chars (offset : Nat) (ps : List Piece) (rest : List Char) :
    spansFrom offset (ps ++ rest.map .char) = spansFrom offset ps := by
  induction ps generalizing offset with
  | nil =>
    induction rest generalizing offset with
    | nil => rfl
    | cons c rest ih => exact ih _
  | cons p ps ih =>
    cases p with
    | char c => exact ih _
    | escape => exact ih _
    | interpolation raw => simp only [List.cons_append, spansFrom, ih]

theorem Reading.spans_eq (h : Reading s ps rest) : spans s = spansFrom 0 ps := by
  rw [spans, h.pieces_eq, spansFrom_append_chars]

/-- A span as it stands in a text. -/
structure Span.Delimited (s : List Char) (span : Span) : Prop where
  /-- At its bytes stands the text between the delimiters, with the delimiters. -/
  text : slice? s span.start span.stop = some ('$' :: '{' :: span.raw ++ ['}'])
  /-- It starts and ends between characters of the encoded text. -/
  boundaries : String.Pos.Raw.IsValid (String.ofList s) ⟨span.start⟩ ∧
    String.Pos.Raw.IsValid (String.ofList s) ⟨span.stop⟩
  noClose : '}' ∉ span.raw
  notBlank : allBlank span.raw = false
  /-- No dollar sign stands in front of it. -/
  unescaped : ∀ before, slice? s 0 span.start = some before → before.getLast? ≠ some '$'

theorem Reading.delimited {span : Span} (h : Reading s ps rest) (hspan : span ∈ spans s) :
    span.Delimited s := by
  rw [h.spans_eq] at hspan
  obtain ⟨front, back, rfl, hblank, hstart, hstop⟩ := mem_spansFrom.1 hspan
  have htext : s = front.flatMap Piece.chars ++ (Piece.interpolation span.raw).chars ++
      (back.flatMap Piece.chars ++ rest) := by
    rw [h.chars_eq]
    simp
  have hmem : .interpolation span.raw ∈ pieces s := by
    rw [h.pieces_eq]
    simp
  rw [Nat.zero_add] at hstart
  rw [hstart] at hstop
  have hslice : slice? s span.start span.stop = some (Piece.interpolation span.raw).chars := by
    rw [hstop, hstart, htext, Piece.byteLength, ← utf8Length_append]
    exact slice?_append ..
  refine ⟨hslice, ?_, not_mem_of_mem_pieces hmem, hblank, ?_⟩
  · exact (isSome_slice?_iff.1 (by rw [hslice]; rfl)).2
  · intro before hbefore
    have hfront := slice?_append [] (front.flatMap Piece.chars)
      ((Piece.interpolation span.raw).chars ++ (back.flatMap Piece.chars ++ rest))
    rw [List.nil_append, ← List.append_assoc, ← htext, ← hstart] at hfront
    obtain rfl : front.flatMap Piece.chars = before := Option.some.inj (hfront.symm.trans hbefore)
    exact h.unescaped

/-- The spans of a text come one behind the other, each between delimiters and not escaped. They are
the interpolations of every reading of the text, those apart that are blank; and a text is read up to
its end or up to an interpolation that is never closed. -/
theorem spans_of_reading (s : List Char) :
    (spans s).Pairwise (fun a b => a.start < b.start ∧ a.stop ≤ b.start) ∧
    (∀ span ∈ spans s, span.Delimited s) ∧
    (∃ ps rest, Reading s ps rest) ∧
    ∀ ps rest, Reading s ps rest →
      s = ps.flatMap Piece.chars ++ rest ∧
      (rest = [] ∨ ∃ t, rest = '$' :: '{' :: t ∧ '}' ∉ t) ∧
      ∀ span, span ∈ spans s ↔
        ∃ front back, ps = front ++ .interpolation span.raw :: back ∧ allBlank span.raw = false ∧
          span.start = utf8Length (front.flatMap Piece.chars) ∧
          span.stop = span.start + (Piece.interpolation span.raw).byteLength := by
  obtain ⟨ps, rest, hreading⟩ := exists_reading s
  refine ⟨pairwise_spansFrom 0 _, fun span hspan => hreading.delimited hspan,
    ⟨ps, rest, hreading⟩, fun ps rest h => ⟨h.chars_eq, h.stops, fun span => ?_⟩⟩
  rw [h.spans_eq, mem_spansFrom]
  simp only [Nat.zero_add]

/-- A character of two bytes, an escape, a blank interpolation, a span, and an interpolation that is
not closed. -/
theorem spans_of_escape_and_blank :
    Reading "é$${a}${ }${b}$ $\x7bc".toList
      [.char 'é', .escape, .char 'a', .char '}', .interpolation [' '], .interpolation ['b'],
        .char '$', .char ' '] "$\x7bc".toList ∧
    ⟨11, 15, ['b']⟩ ∈ spans "é$${a}${ }${b}$ $\x7bc".toList ∧
    Span.Delimited "é$${a}${ }${b}$ $\x7bc".toList ⟨11, 15, ['b']⟩ := by
  have hopen : Reading "$\x7bc".toList [] "$\x7bc".toList := .unclosed (by decide)
  have hdollar : Reading "$ $\x7bc".toList [.char '$', .char ' '] "$\x7bc".toList :=
    .char (by decide) (by decide) (.char (by decide) (by decide) hopen)
  have hspan : Reading "${b}$ $\x7bc".toList _ _ := .interpolation (by decide : '}' ∉ ['b']) hdollar
  have hblank : Reading "${ }${b}$ $\x7bc".toList _ _ := .interpolation (by decide : '}' ∉ [' ']) hspan
  have hescape : Reading "$${a}${ }${b}$ $\x7bc".toList _ _ :=
    .escape (.char (by decide) (by decide) (.char (by decide) (by decide) hblank))
  have hreading : Reading "é$${a}${ }${b}$ $\x7bc".toList _ _ :=
    .char (by decide) (by decide) hescape
  obtain ⟨-, hdelimited, -, hall⟩ := spans_of_reading "é$${a}${ }${b}$ $\x7bc".toList
  obtain ⟨-, -, hmem⟩ := hall _ _ hreading
  have hb : ⟨11, 15, ['b']⟩ ∈ spans "é$${a}${ }${b}$ $\x7bc".toList :=
    (hmem _).2 ⟨[.char 'é', .escape, .char 'a', .char '}', .interpolation [' ']],
      [.char '$', .char ' '], rfl, by decide, by decide, by decide⟩
  exact ⟨hreading, hb, hdelimited _ hb⟩

end InfraConfig.Template
