import InfraConfig.Proofs.Reference.Masking

/-! Quoted texts in compound expressions. `QuotedText` is the grammar of what is quoted: the text
between two quotes, a backslash hiding the character behind it, or up to the end where it is not
closed. The references inside of an expression have their bytes in the expression itself: the text
there is the reference, and no part of it is quoted (`Reference.embedded_in_place`). -/
namespace InfraConfig

open Text (isSome_slice?_iff mem_placedFrom pairwise_placedFrom placedFrom slice? slice?_eq_some_iff
  utf8Length utf8Length_append)
open Quoting (mask)

/-! ### Quoted texts -/

/-- The inside of a quoted text. A backslash hides the character behind it. -/
inductive IsQuotedBody : List Char → Prop where
  | nil : IsQuotedBody []
  | char {c : Char} {body : List Char} (noQuote : c ≠ '"') (noBackslash : c ≠ '\\')
      (more : IsQuotedBody body) : IsQuotedBody (c :: body)
  | escape {c : Char} {body : List Char} (more : IsQuotedBody body) :
      IsQuotedBody ('\\' :: c :: body)

/-- A text in which every quoted text is closed. -/
inductive EndsUnquoted : List Char → Prop where
  | nil : EndsUnquoted []
  | char {front : List Char} {c : Char} (before : EndsUnquoted front) (noQuote : c ≠ '"') :
      EndsUnquoted (front ++ [c])
  | quoted {front body : List Char} (before : EndsUnquoted front) (inside : IsQuotedBody body) :
      EndsUnquoted (front ++ ('"' :: body ++ ['"']))

/-- The quoted texts of an expression, quotes included, with what stands in front. One that is not
closed goes on to the end. -/
inductive QuotedText (s : List Char) : List Char → List Char → Prop where
  | closed {front body back : List Char} (before : EndsUnquoted front) (inside : IsQuotedBody body)
      (split : s = front ++ ('"' :: body ++ ['"']) ++ back) :
      QuotedText s front ('"' :: body ++ ['"'])
  | unclosed {front body : List Char} (before : EndsUnquoted front) (inside : IsQuotedBody body)
      (split : s = front ++ '"' :: body) : QuotedText s front ('"' :: body)
  | cutOff {front body : List Char} (before : EndsUnquoted front) (inside : IsQuotedBody body)
      (split : s = front ++ ('"' :: body ++ ['\\'])) : QuotedText s front ('"' :: body ++ ['\\'])

namespace Quoting

/-- Where the character behind a text stands. -/
def after (quoting : Quoting) (s : List Char) : Quoting := s.foldl next quoting

theorem after_append (quoting : Quoting) (s t : List Char) :
    quoting.after (s ++ t) = (quoting.after s).after t :=
  List.foldl_append

theorem after_of_not_mem {s : List Char} (h : '"' ∉ s) : Quoting.outside.after s = .outside := by
  induction s with
  | nil => rfl
  | cons c s ih =>
    obtain ⟨hc, hs⟩ := not_or.1 (mt List.mem_cons.2 h)
    show (Quoting.outside.next c).after s = .outside
    rw [next_outside (Ne.symm hc), ih hs]

theorem next_inside {c : Char} (hquote : c ≠ '"') (hbackslash : c ≠ '\\') :
    Quoting.inside.next c = .inside := by
  rw [next, if_neg hbackslash, if_neg hquote]

theorem after_body {body : List Char} (h : IsQuotedBody body) :
    Quoting.inside.after body = .inside := by
  induction h with
  | nil => rfl
  | @char c body hquote hbackslash _ ih =>
    show (Quoting.inside.next c).after body = .inside
    rw [next_inside hquote hbackslash, ih]
  | escape _ ih => exact ih

/-- A quoted text is not left in front of its closing quote. -/
theorem after_front_of_body {body front : List Char} (h : IsQuotedBody body) (hfront : front <+: body) :
    Quoting.inside.after front ≠ .outside := by
  induction h generalizing front with
  | nil =>
    rw [List.prefix_nil.1 hfront]
    nofun
  | @char c body hquote hbackslash _ ih =>
    cases front with
    | nil => nofun
    | cons d front =>
      obtain ⟨rfl, hrest⟩ := List.cons_prefix_cons.1 hfront
      show (Quoting.inside.next d).after front ≠ .outside
      rw [next_inside hquote hbackslash]
      exact ih hrest
  | @escape c body _ ih =>
    cases front with
    | nil => nofun
    | cons d front =>
      obtain ⟨rfl, hrest⟩ := List.cons_prefix_cons.1 hfront
      cases front with
      | nil => nofun
      | cons e front =>
        show Quoting.inside.after front ≠ .outside
        exact ih (List.cons_prefix_cons.1 hrest).2

theorem after_endsUnquoted {s : List Char} (h : EndsUnquoted s) :
    Quoting.outside.after s = .outside := by
  induction h with
  | nil => rfl
  | char _ hquote ih =>
    rw [after_append, ih]
    exact next_outside hquote
  | @quoted front body _ hbody ih =>
    rw [after_append, ih, after_append]
    show ((Quoting.inside.after body).after ['"']) = .outside
    rw [after_body hbody]
    rfl

end Quoting

namespace QuotedText

variable {s front text : List Char}

theorem starts (h : QuotedText s front text) : ∃ more, text = '"' :: more := by
  cases h <;> exact ⟨_, rfl⟩

theorem split (h : QuotedText s front text) : ∃ back, s = front ++ text ++ back := by
  cases h with
  | closed _ _ hsplit => exact ⟨_, hsplit⟩
  | unclosed _ _ hsplit => exact ⟨[], by rw [hsplit, List.append_nil]⟩
  | cutOff _ _ hsplit => exact ⟨[], by rw [hsplit, List.append_nil]⟩

theorem before (h : QuotedText s front text) : Quoting.outside.after front = .outside := by
  cases h with
  | closed hbefore | unclosed hbefore | cutOff hbefore => exact Quoting.after_endsUnquoted hbefore

/-- Within a quoted text one stands inside of quotes. -/
theorem within (h : QuotedText s front text) {part : List Char} (hpart : part <+: text)
    (hne : part ≠ []) (hproper : part ≠ text) : Quoting.outside.after part ≠ .outside := by
  obtain ⟨c, part, rfl⟩ := List.exists_cons_of_ne_nil hne
  cases h with
  | unclosed _ hbody =>
    obtain ⟨rfl, hrest⟩ := List.cons_prefix_cons.1 hpart
    exact Quoting.after_front_of_body hbody hrest
  | closed _ hbody | cutOff _ hbody =>
    obtain ⟨rfl, hrest⟩ := List.cons_prefix_cons.1 hpart
    rcases List.prefix_concat_iff.1 hrest with hwhole | hrest
    · exact absurd (by rw [hwhole]; rfl) hproper
    · exact Quoting.after_front_of_body hbody hrest

end QuotedText

namespace Reference

/-! ### Places -/

theorem embeddedFrom_eq (offset : Nat) (fragments : List Fragment) :
    embeddedFrom offset fragments =
      (placedFrom Fragment.chars Fragment.reference? offset fragments).map
        fun p => ⟨p.start, p.stop, p.item⟩ := by
  induction fragments generalizing offset with
  | nil => rfl
  | cons fragment fragments ih =>
    cases fragment with
    | text chars => exact ih _
    | reference chars r => simp only [embeddedFrom, placedFrom, Fragment.reference?, ih, List.map_cons]

/-- What stands in front of a reference ends outside of quotes, and the reference is read from its own
text. -/
theorem token_of_fragmentsFrom {quoting : Quoting} {before : Option Char} {s chars : List Char}
    {r : Reference} {front back : List Fragment}
    (h : fragmentsFrom quoting before s = front ++ .reference chars r :: back) :
    quoting.after (front.flatMap Fragment.chars) = .outside ∧
      ∃ t : Traversal, t.Spelled chars := by
  fun_induction fragmentsFrom quoting before s generalizing front with
  | case1 => simp at h
  | case2 before c s _ ih =>
    cases front with
    | nil => cases h
    | cons fragment front =>
      obtain ⟨rfl, hmore⟩ := List.cons.inj h
      exact ih hmore
  | case3 before c s token htoken ih =>
    obtain ⟨t, hspelled, -, -⟩ := spelled_of_readToken? htoken
    cases front with
    | nil =>
      obtain ⟨hfragment, -⟩ := List.cons.inj h
      have hchars : (token.fragment before).chars = chars := congrArg Fragment.chars hfragment
      rw [Token.chars_fragment] at hchars
      exact ⟨rfl, t, hchars ▸ hspelled⟩
    | cons fragment front =>
      obtain ⟨rfl, hmore⟩ := List.cons.inj h
      obtain ⟨hafter, hfound⟩ := ih hmore
      refine ⟨?_, hfound⟩
      rw [List.flatMap_cons, Token.chars_fragment, Quoting.after_append,
        Quoting.after_of_not_mem (Traversal.quote_not_mem hspelled)]
      exact hafter
  | case4 quoting before c s _ ih =>
    cases front with
    | nil => cases h
    | cons fragment front =>
      obtain ⟨rfl, hmore⟩ := List.cons.inj h
      exact ih hmore

/-- A reference as it stands in an expression. -/
structure Embedded.InPlace (s : List Char) (e : Embedded) : Prop where
  /-- The text at its bytes is the reference. -/
  text : ∃ text, slice? s e.start e.stop = some text ∧ ofChars? text = some e.reference
  /-- It starts and ends between characters of the encoded text. -/
  boundaries : String.Pos.Raw.IsValid (String.ofList s) ⟨e.start⟩ ∧
    String.Pos.Raw.IsValid (String.ofList s) ⟨e.stop⟩
  within : e.stop ≤ utf8Length s
  /-- No part of it is quoted. -/
  unquoted : ∀ front quoted, QuotedText s front quoted →
    e.stop ≤ utf8Length front ∨ utf8Length (front ++ quoted) ≤ e.start

theorem Embedded.InPlace.start_lt_stop {s : List Char} {e : Embedded} (h : e.InPlace s) :
    e.start < e.stop := by
  obtain ⟨text, hslice, hreference⟩ := h.text
  obtain ⟨before, after, -, hstart, hstop⟩ := slice?_eq_some_iff.1 hslice
  cases text with
  | nil => cases hreference
  | cons c text =>
    have hlength := Text.utf8Length_cons_pos c text
    rw [utf8Length_append, hstart] at hstop
    omega

/-- A text without quotes behind a text that ends outside of quotes is part of no quoted text. -/
theorem apart_of_quotedText {s before chars rest front quoted : List Char}
    (hsplit : s = before ++ (chars ++ rest)) (hbefore : Quoting.outside.after before = .outside)
    (hchars : '"' ∉ chars) (hne : chars ≠ []) (h : QuotedText s front quoted) :
    utf8Length (before ++ chars) ≤ utf8Length front ∨
      utf8Length (front ++ quoted) ≤ utf8Length before := by
  obtain ⟨back, hback⟩ := h.split
  obtain ⟨more, hquoted⟩ := h.starts
  rw [hsplit, List.append_assoc] at hback
  rcases List.append_eq_append_iff.1 hback with ⟨x, rfl, hrest⟩ | ⟨x, rfl, hrest⟩
  · -- the quoted text starts behind `before`, so that it does not start in `chars`
    rcases List.append_eq_append_iff.1 hrest with ⟨y, rfl, -⟩ | ⟨y, rfl, hy⟩
    · left
      simp only [utf8Length_append]
      omega
    · cases y with
      | nil => left; simp [utf8Length_append]
      | cons d y =>
        rw [hquoted] at hy
        obtain ⟨rfl, -⟩ := List.cons.inj hy
        exact absurd (by simp) hchars
  · -- the quoted text starts in `before`, and it has ended where `before` ends
    rcases List.append_eq_append_iff.1 hrest with ⟨y, rfl, -⟩ | ⟨y, hy, hstart⟩
    · right
      simp only [utf8Length_append]
      omega
    · by_cases hproper : x = quoted
      · right
        exact Nat.le_of_eq (by rw [hproper])
      · exfalso
        rw [Quoting.after_append, h.before] at hbefore
        cases x with
        | nil =>
          rw [List.nil_append] at hy
          rw [← hy, hquoted] at hstart
          obtain ⟨d, chars, rfl⟩ := List.exists_cons_of_ne_nil hne
          obtain ⟨rfl, -⟩ := List.cons.inj hstart
          exact hchars List.mem_cons_self
        | cons d x => exact h.within ⟨y, hy.symm⟩ (List.cons_ne_nil d x) hproper hbefore

theorem inPlace_of_mem_embedded {s : List Char} {e : Embedded} (h : e ∈ embedded s) :
    e.InPlace s := by
  rw [embedded, embeddedFrom_eq, List.mem_map] at h
  obtain ⟨p, hp, rfl⟩ := h
  obtain ⟨front, fragment, back, hfragments, hreference, hstart, hstop⟩ := mem_placedFrom.1 hp
  rw [Nat.zero_add] at hstart
  cases fragment with
  | text chars => cases hreference
  | reference chars r =>
    obtain rfl : r = p.item := Option.some.inj hreference
    have hsplit : s = front.flatMap Fragment.chars ++ (chars ++ back.flatMap Fragment.chars) := by
      have hchars := chars_fragments s
      rw [hfragments, List.flatMap_append, List.flatMap_cons] at hchars
      exact hchars.symm
    have hends : utf8Length (front.flatMap Fragment.chars ++ chars) = p.stop := by
      rw [utf8Length_append, hstop, hstart]
      rfl
    have hslice : slice? s p.start p.stop = some chars :=
      slice?_eq_some_iff.2 ⟨_, _, by rw [hsplit, List.append_assoc], hstart.symm, hends⟩
    obtain ⟨hbefore, t, hspelled⟩ := token_of_fragmentsFrom hfragments
    have hmem : .reference chars p.item ∈ fragmentsFrom .outside none s := by
      show .reference chars p.item ∈ fragments s
      rw [hfragments]
      simp
    refine ⟨⟨chars, hslice, ofChars?_of_mem_fragmentsFrom hmem⟩, ?_, ?_, ?_⟩
    · exact (isSome_slice?_iff.1 (by rw [hslice]; rfl)).2
    · show p.stop ≤ utf8Length s
      rw [hsplit, ← List.append_assoc, utf8Length_append, hends]
      omega
    · intro before quoted hquoted
      have hapart := apart_of_quotedText hsplit hbefore (Traversal.quote_not_mem hspelled)
        hspelled.ne_nil hquoted
      rwa [hends, ← hstart] at hapart

/-- The references inside of an expression are found at the bytes where they stand in its masked
copy. They come one behind the other; the text of the expression at the bytes of each is the
reference, and no part of it is quoted. -/
theorem embedded_in_place (s : List Char) :
    embedded s = embeddedFrom 0 (scan none (mask .outside s)) ∧
    (embedded s).Pairwise (fun a b => a.start < b.start ∧ a.stop ≤ b.start) ∧
    ∀ e ∈ embedded s, e.InPlace s := by
  refine ⟨embedded_eq_scan s, ?_, fun e he => inPlace_of_mem_embedded he⟩
  have hstops : (embedded s).Pairwise fun a b => a.stop ≤ b.start := by
    rw [embedded, embeddedFrom_eq, List.pairwise_map]
    exact pairwise_placedFrom 0 _
  refine hstops.imp_of_mem ?_
  intro a b ha _ hab
  have hlength := (inPlace_of_mem_embedded ha).start_lt_stop
  exact ⟨by omega, hab⟩

/-- A reference between a quoted text, with a character of two bytes and a quote in it, and one that is
not closed. -/
theorem embedded_between_quoted_texts :
    ⟨18, 23, .external "var.x"⟩ ∈ embedded "f(\"é)\\\"local.a\", var.x + \"local.b".toList ∧
    Embedded.InPlace "f(\"é)\\\"local.a\", var.x + \"local.b".toList ⟨18, 23, .external "var.x"⟩ ∧
    QuotedText "f(\"é)\\\"local.a\", var.x + \"local.b".toList "f(".toList
      "\"é)\\\"local.a\"".toList ∧
    utf8Length "f(\"é)\\\"local.a\"".toList = 16 := by
  have hmem : ⟨18, 23, .external "var.x"⟩ ∈
      embedded "f(\"é)\\\"local.a\", var.x + \"local.b".toList := by decide +kernel
  obtain ⟨-, -, hplace⟩ := embedded_in_place "f(\"é)\\\"local.a\", var.x + \"local.b".toList
  have hfront : EndsUnquoted "f(".toList :=
    .char (.char .nil (by decide : 'f' ≠ '"')) (by decide : '(' ≠ '"')
  have hname : IsQuotedBody "local.a".toList := by
    iterate 7 refine .char (by decide) (by decide) ?_
    exact .nil
  have hbody : IsQuotedBody "é)\\\"local.a".toList :=
    .char (by decide) (by decide) (.char (by decide) (by decide) (.escape hname))
  exact ⟨hmem, hplace _ hmem, .closed hfront hbody rfl, by decide⟩

end Reference

end InfraConfig
