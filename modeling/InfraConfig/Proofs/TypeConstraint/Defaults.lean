import InfraConfig.Proofs.TypeConstraint.Writing

/-! Defaults of attributes that may be absent. The default in `optional(T, default)` is cut into
tokens like the rest of the expression and skipped up to the bracket that closes the constructor. It
does not count as long as its quotes and, outside of them, its brackets close (`ignored_iff`). In a
quoted default the quotes that are escaped count as well: the text between two of them stands
outside of the quotes (`quoted_default_ignored_iff`). -/
namespace InfraConfig.TypeConstraint

open InfraConfig.Text (isBlank)

/-! ### Brackets -/

/-- How many brackets are open after tokens, given how many are before them; `none` if one is closed
while none is open. -/
def openAfter? : Nat → List Token → Option Nat
  | opened, [] => some opened
  | opened, .opening _ :: ts => openAfter? (opened + 1) ts
  | 0, .closing _ :: _ => none
  | opened + 1, .closing _ :: ts => openAfter? opened ts
  | opened, _ :: ts => openAfter? opened ts

theorem openAfter?_cons {ts us : List Token}
    (h : ∀ opened, openAfter? opened ts = openAfter? opened us) (opened : Nat) (token : Token) :
    openAfter? opened (token :: ts) = openAfter? opened (token :: us) := by
  cases token with
  | closing => cases opened <;> simp only [openAfter?, h]
  | _ => simp only [openAfter?, h]

theorem skipToClose_append {opened : Nat} {front : List Token}
    (h : openAfter? opened front = some 0) (rest : List Token) :
    skipToClose opened (front ++ .closing .round :: rest) = .ok rest := by
  induction front generalizing opened with
  | nil =>
    cases h
    rfl
  | cons token front ih =>
    cases token with
    | closing =>
      cases opened with
      | zero => cases h
      | succ => exact ih h
    | _ =>
      simp only [openAfter?] at h
      simp only [List.cons_append, skipToClose]
      exact ih h

theorem exists_of_skipToClose {opened : Nat} {ts rest : List Token}
    (h : skipToClose opened ts = .ok rest) :
    ∃ front, ts = front ++ .closing .round :: rest ∧ openAfter? opened front = some 0 := by
  fun_induction skipToClose opened ts with
  | case1 => cases h
  | case3 =>
    cases h
    exact ⟨[], rfl, rfl⟩
  | case4 => cases h
  | case2 opened b ts ih | case5 opened b ts ih =>
    obtain ⟨front, rfl, hfront⟩ := ih h
    exact ⟨_ :: front, rfl, hfront⟩
  | case6 opened token ts hopening hzero hsucc ih =>
    obtain ⟨front, rfl, hfront⟩ := ih h
    refine ⟨token :: front, rfl, ?_⟩
    rwa [openAfter?]
    · exact hopening
    · exact hzero
    · exact hsucc

/-! ### Quotes -/

/-- The characters outside of quotes, given whether the text starts between quotes. -/
def outside : (quoted : Bool) → List Char → List Char
  | _, [] => []
  | quoted, c :: s =>
    if c = '"' then outside (!quoted) s
    else if quoted then outside quoted s
    else c :: outside quoted s

/-- Every bracket that is opened is closed, and no other one is. -/
def Balanced (s : List Char) : Prop := openAfter? 0 (s.filterMap punctuation?) = some 0

instance (s : List Char) : Decidable (Balanced s) :=
  inferInstanceAs (Decidable (openAfter? 0 (s.filterMap punctuation?) = some 0))

theorem outside_quote (quoted : Bool) (s : List Char) :
    outside quoted ('"' :: s) = outside (!quoted) s := rfl

theorem outside_cons {c : Char} (h : c ≠ '"') (s : List Char) :
    outside false (c :: s) = c :: outside false s := by
  rw [outside, if_neg h, if_neg Bool.false_ne_true]

theorem outside_append {name : List Char} (h : '"' ∉ name) (rest : List Char) :
    outside false (name ++ rest) = name ++ outside false rest ∧
      outside true (name ++ rest) = outside true rest := by
  induction name with
  | nil => exact ⟨rfl, rfl⟩
  | cons c name ih =>
    obtain ⟨hc, hname⟩ := not_or.1 (mt List.mem_cons.2 h)
    obtain ⟨hfalse, htrue⟩ := ih hname
    constructor
    · rw [List.cons_append, outside_cons (Ne.symm hc), hfalse, List.cons_append]
    · rw [List.cons_append, outside, if_neg (Ne.symm hc), if_pos rfl, htrue]

theorem ne_quote_of_isBlank {c : Char} (h : isBlank c = true) : c ≠ '"' := by
  rintro rfl
  exact absurd h (by decide)

theorem ne_quote_of_punctuation? {c : Char} {token : Token} (h : punctuation? c = some token) :
    c ≠ '"' := by
  rintro rfl
  cases h

theorem IsName.unquoted {name : String} (h : IsName name) : '"' ∉ name.toList :=
  fun hmem => ne_quote_of_isNameChar (h.2 _ hmem) rfl

theorem punctuation?_of_isBlank {c : Char} (h : isBlank c = true) : punctuation? c = none := by
  cases htoken : punctuation? c with
  | none => rfl
  | some token =>
    rw [isBlank_of_punctuation? htoken] at h
    cases h

theorem count_name {name : String} (h : IsName name) (s : List Char) :
    (name.toList ++ s).count '"' = s.count '"' := by
  rw [List.count_append, List.count_eq_zero.2 h.unquoted, Nat.zero_add]

theorem count_between {name : List Char} (h : '"' ∉ name) (s : List Char) :
    ('"' :: (name ++ '"' :: s)).count '"' = s.count '"' + 2 := by
  rw [List.count_cons_self, List.count_append, List.count_eq_zero.2 h, List.count_cons_self,
    Nat.zero_add]

theorem getLast?_ident_cons {token : Token} {ts : List Token}
    (h : ∃ name, ts.getLast? = some (.ident name)) :
    ∃ name, (token :: ts).getLast? = some (.ident name) := by
  obtain ⟨name, hlast⟩ := h
  exact ⟨name, by rw [List.getLast?_cons, hlast, Option.getD_some]⟩

theorem Separated.append {s rest : List Char} (h : Separated s) (hrest : Separated rest) :
    Separated (s ++ rest) := by
  cases s with
  | nil => exact hrest
  | cons c s => exact h

namespace Cut
variable {s : List Char} {ts : List Token} (h : Cut s ts)

include h

/-- Where as many quotes are closed as are opened, the text is cut apart from what follows. -/
theorem append (heven : s.count '"' % 2 = 0) {rest : List Char} (hrest : Separated rest) :
    tokens (s ++ rest) = ts ++ tokens rest := by
  induction h with
  | nil => rfl
  | blank hblank _ ih =>
    rw [List.count_cons_of_ne (ne_quote_of_isBlank hblank)] at heven
    rw [List.cons_append, tokens_blank hblank, ih heven]
  | punctuation hpunctuation _ ih =>
    rw [List.count_cons_of_ne (ne_quote_of_punctuation? hpunctuation)] at heven
    rw [List.cons_append, tokens_punctuation hpunctuation, ih heven, List.cons_append]
  | name hname separated _ ih =>
    rw [count_name hname] at heven
    rw [List.append_assoc, tokens_name hname (separated.append hrest), ih heven, List.cons_append]
  | quoted unquoted _ ih =>
    rw [count_between unquoted] at heven
    rw [List.cons_append, List.append_assoc, List.cons_append, tokens_quoted unquoted,
      ih (by omega), List.cons_append]
  | unclosed unquoted =>
    rw [List.count_cons_self, List.count_eq_zero.2 unquoted] at heven
    cases heven
  | unexpected notBlank notPunctuation notQuote notName _ ih =>
    rw [List.count_cons_of_ne notQuote] at heven
    rw [List.cons_append, tokens_unexpected notBlank notPunctuation notQuote notName, ih heven,
      List.cons_append]

/-- A quote that is not closed takes the rest of the text into the last token. -/
theorem getLast?_of_odd (hodd : s.count '"' % 2 = 1) :
    ∃ name, ts.getLast? = some (.ident name) := by
  induction h with
  | nil => cases hodd
  | blank hblank _ ih =>
    rw [List.count_cons_of_ne (ne_quote_of_isBlank hblank)] at hodd
    exact ih hodd
  | punctuation hpunctuation _ ih =>
    rw [List.count_cons_of_ne (ne_quote_of_punctuation? hpunctuation)] at hodd
    exact getLast?_ident_cons (ih hodd)
  | name hname separated _ ih =>
    rw [count_name hname] at hodd
    exact getLast?_ident_cons (ih hodd)
  | quoted unquoted _ ih =>
    rw [count_between unquoted] at hodd
    exact getLast?_ident_cons (ih (by omega))
  | unclosed unquoted => exact ⟨_, rfl⟩
  | unexpected notBlank notPunctuation notQuote notName _ ih =>
    rw [List.count_cons_of_ne notQuote] at hodd
    exact getLast?_ident_cons (ih hodd)

/-- Only the brackets outside of quotes are tokens. -/
theorem openAfter?_eq (opened : Nat) :
    openAfter? opened ts = openAfter? opened ((outside false s).filterMap punctuation?) := by
  induction h generalizing opened with
  | nil => rfl
  | blank hblank _ ih =>
    rw [outside_cons (ne_quote_of_isBlank hblank),
      List.filterMap_cons_none (punctuation?_of_isBlank hblank), ih]
  | punctuation hpunctuation _ ih =>
    rw [outside_cons (ne_quote_of_punctuation? hpunctuation), List.filterMap_cons_some hpunctuation]
    exact openAfter?_cons ih opened _
  | @name name s ts hname separated _ ih =>
    have hnone : name.toList.filterMap punctuation? = [] :=
      List.filterMap_eq_nil_iff.2 fun c hc => punctuation?_of_isNameChar (hname.2 c hc)
    rw [(outside_append hname.unquoted s).1, List.filterMap_append, hnone, List.nil_append, ← ih,
      openAfter?]
    all_goals nofun
  | @quoted name s ts unquoted _ ih =>
    rw [outside_quote, Bool.not_false, (outside_append unquoted _).2, outside_quote, Bool.not_true,
      ← ih, openAfter?]
    all_goals nofun
  | @unclosed name unquoted =>
    have houtside := (outside_append unquoted []).2
    rw [List.append_nil] at houtside
    rw [outside_quote, Bool.not_false, houtside]
    rfl
  | unexpected notBlank notPunctuation notQuote notName _ ih =>
    rw [outside_cons notQuote, List.filterMap_cons_none notPunctuation, ← ih, openAfter?]
    all_goals nofun

end Cut

/-! ### Defaults that do not count -/

/-- A type and a default. -/
def withDefault (type default : List Char) : List Char := type ++ ',' :: ' ' :: default

/-- An object with one attribute, which may be absent. -/
def objectChars (name : String) (argument : List Char) : List Char :=
  applied "object"
    ('{' :: ' ' :: (assigned name (applied "optional" argument) ++ [' ', '}']))

def objectText (name : String) (argument : List Char) : String :=
  String.ofList (objectChars name argument)

example : objectText "n" (withDefault (primitive .number).chars ['8', '0']) =
    "object(\x7b n = optional(number, 80) \x7d)" := by
  decide

theorem readAs_withDefault {type default : List Char} {t : TypeConstraint} (h : ReadAs type t)
    (hquotes : default.count '"' % 2 = 0) (hbrackets : Balanced (outside false default)) :
    ReadAs (applied "optional" (withDefault type default)) t := by
  apply readAs_of_succ
  intro fuel levels rest _ hfuel
  have htokens : tokens (applied "optional" (withDefault type default) ++ rest) =
      .ident "optional" :: .opening .round ::
        tokens (type ++ ',' :: ' ' :: (default ++ ')' :: rest)) := by
    rw [tokens_applied isName_optional, withDefault, List.append_assoc]
    rfl
  have hdefault : tokens (',' :: ' ' :: (default ++ ')' :: rest)) =
      .comma :: (tokens default ++ .closing .round :: tokens rest) := by
    rw [tokens_punctuation rfl, tokens_blank (by decide),
      (cut_tokens default).append hquotes (stops_close rest).1, tokens_punctuation rfl]
  have hskip : closeOptional (.comma :: (tokens default ++ .closing .round :: tokens rest)) =
      .ok (tokens rest) := by
    apply skipToClose_append
    rw [(cut_tokens default).openAfter?_eq]
    exact hbrackets
  rw [htokens] at hfuel ⊢
  simp only [List.length_cons] at hfuel
  rw [read_optional, h fuel (levels + 1) _ (stops_of_punctuation rfl (by decide) _) (by omega),
    hdefault]
  exact within_bind (levels + 1) t.depth (by rw [hskip]; rfl)

theorem tokens_objectChars {name : String} (hname : IsName name) (argument rest : List Char) :
    tokens (objectChars name argument ++ rest) =
      .ident "object" :: .opening .round :: .opening .curly :: .ident name :: .assign ::
        tokens (applied "optional" argument ++ ' ' :: '}' :: ')' :: rest) := by
  rw [objectChars, tokens_applied isName_object, List.cons_append, tokens_punctuation rfl,
    List.cons_append, tokens_blank (by decide), List.append_assoc, tokens_assigned hname]
  rfl

theorem tokens_objectEnd (rest : List Char) :
    tokens (' ' :: '}' :: ')' :: rest) = .closing .curly :: .closing .round :: tokens rest := by
  rw [tokens_blank (by decide), tokens_punctuation rfl, tokens_punctuation rfl]

theorem stops_objectEnd (rest : List Char) : Stops (' ' :: '}' :: ')' :: rest) := by
  refine ⟨separated_cons (by decide) _, ?_⟩
  rw [tokens_objectEnd]
  simp

theorem unwrap_objectChars (name : String) (argument : List Char) :
    unwrap (objectChars name argument) = objectChars name argument := by
  have hends := ends_applied isName_object
    ('{' :: ' ' :: (assigned name (applied "optional" argument) ++ [' ', '}']))
  exact unwrap_eq_self hends.1 hends.2

theorem depth_object_singleton (name : String) (field : Field TypeConstraint) :
    (object [(name, field)]).depth = 1 + field.type.depth := by
  simp only [depth, depthOfAttributes, Nat.max_zero]

theorem readAs_objectChars {name : String} (hname : IsName name) {argument : List Char}
    {t : TypeConstraint} (h : ReadAs (applied "optional" argument) t) :
    ReadAs (objectChars name argument) (object [(name, ⟨t, true⟩)]) := by
  apply readAs_of_succ
  intro fuel levels rest _ hfuel
  rw [tokens_objectChars hname] at hfuel ⊢
  simp only [List.length_cons] at hfuel
  obtain ⟨fuel, rfl⟩ : ∃ more, fuel = more + 2 := ⟨fuel - 2, by omega⟩
  have hfield := h (fuel + 1) levels _ (stops_objectEnd rest) (by omega)
  have hmark := isOptional_tokens_applied isName_optional argument (' ' :: '}' :: ')' :: rest)
  have hfields : readFields (fuel + 2) levels [] (.ident name :: .assign ::
      tokens (applied "optional" argument ++ ' ' :: '}' :: ')' :: rest)) =
        within levels t.depth ([(name, ⟨t, true⟩)], .closing .round :: tokens rest) := by
    rw [readFields_field, hfield, tokens_objectEnd]
    exact within_bind levels t.depth (by rw [hmark]; rfl)
  rw [read_object, hfields, depth_object_singleton, within_succ]
  exact within_bind levels t.depth rfl

theorem ofValue_objectText {name : String} (hname : IsName name) {argument : List Char}
    {t : TypeConstraint} (h : ReadAs (applied "optional" argument) t) (max : Nat) :
    ofValue max (.string (objectText name argument)) =
      if 1 + t.depth ≤ max then .ok (object [(name, ⟨t, true⟩)]) else .error ⟨max⟩ := by
  rw [ofValue, objectText, ofForm?_of_readAs (unwrap_objectChars name argument)
    (readAs_objectChars hname h), depth_object_singleton]
  by_cases hmax : 1 + t.depth ≤ max
  · rw [if_pos hmax, if_pos hmax]
  · rw [if_neg hmax, if_neg hmax]

/-- A default does not count: an object is read as the same type with it and without it, whatever
the type and the name of its attribute, and it is refused under the same bounds. -/
def Ignored (default : List Char) : Prop :=
  ∀ (t : TypeConstraint) (name : String) (max : Nat), t.Expressible → IsName name →
    ofValue max (.string (objectText name (withDefault t.chars default))) =
      ofValue max (.string (objectText name t.chars))

theorem ignored_of_balanced {default : List Char} (hquotes : default.count '"' % 2 = 0)
    (hbrackets : Balanced (outside false default)) : Ignored default := by
  intro t name max ht hname
  have hread := readAs_chars ht
  rw [ofValue_objectText hname (readAs_withDefault hread hquotes hbrackets),
    ofValue_objectText hname (readAs_optional hread)]

/-! ### Defaults that count -/

theorem Reads.keys_subset {levels : Nat} {before after : Keyed (Field TypeConstraint)}
    {ts rest : List Token} (h : Reads levels ts (.fields before after) rest) {name : String}
    (hname : name ∈ Keyed.keys before) : name ∈ Keyed.keys after := by
  generalize hphrase : Phrase.fields before after = phrase at h
  induction h generalizing before with
  | noField =>
    cases hphrase
    exact hname
  | comma _ ih =>
    cases hphrase
    exact ih hname rfl
  | field _ _ _ ih =>
    cases hphrase
    exact ih ((Keyed.mem_keys_insert _).2 (.inl hname)) rfl
  | _ => cases hphrase

/-- After the commas, the fields are closed, or the name of a field comes next. -/
theorem Reads.closes_or_goes_on {levels : Nat} {before after : Keyed (Field TypeConstraint)}
    {ts rest : List Token} (h : Reads levels ts (.fields before after) rest) :
    ts.dropWhile (· = .comma) = .closing .curly :: rest ∨
      ∃ name more, ts.dropWhile (· = .comma) = .ident name :: more ∧ name ∈ Keyed.keys after := by
  generalize hphrase : Phrase.fields before after = phrase at h
  induction h with
  | noField => exact .inl rfl
  | comma _ ih =>
    cases hphrase
    exact ih rfl
  | field _ more =>
    cases hphrase
    exact .inr ⟨_, _, rfl, more.keys_subset ((Keyed.mem_keys_insert _).2 (.inr rfl))⟩
  | _ => cases hphrase

/-- Two names that are each the only one: no field goes on. -/
theorem dropWhile_of_names {levels : Nat} {a b : String} (hne : a ≠ b) {f g : Field TypeConstraint}
    {ts rest : List Token} (ha : Reads levels ts (.fields [(a, f)] [(a, f)]) rest)
    (hb : Reads levels ts (.fields [(b, g)] [(b, g)]) rest) :
    ts.dropWhile (· = .comma) = .closing .curly :: rest := by
  obtain hcloses | ⟨name, more, hname, ha⟩ := ha.closes_or_goes_on
  · exact hcloses
  · obtain hcloses | ⟨other, more', hother, hb⟩ := hb.closes_or_goes_on
    · exact hcloses
    · rw [hname] at hother
      cases hother
      rw [Keyed.keys, List.map_singleton, List.mem_singleton] at ha hb
      exact absurd (ha.symm.trans hb) hne

/-- A type other than `any` has been read, up to the end. -/
theorem read_of_ofValue {s : List Char} (hself : unwrap s = s) {levels : Nat} {t : TypeConstraint}
    (h : ofValue (levels + 1) (.string (String.ofList s)) = .ok t) (hany : t ≠ any) :
    read ((tokens s).length + 1) (levels + 1) (tokens s) = .ok (t, []) := by
  simp only [ofValue, ofForm?, String.toList_ofList, ofExpression?, hself] at h
  cases hread : read ((tokens s).length + 1) (levels + 1) (tokens s) with
  | error failure =>
    rw [hread] at h
    cases failure with
    | malformed => exact absurd (Except.ok.inj h).symm hany
    | tooDeep => cases h
  | ok part =>
    obtain ⟨type, rest⟩ := part
    rw [hread] at h
    cases rest with
    | nil => rw [Except.ok.inj h]
    | cons => exact absurd (Except.ok.inj h).symm hany

/-- What is left of an attribute of type `any` after its default. -/
theorem skipped_of_ofValue {name : String} (hname : IsName name) {default : List Char}
    (h : ofValue 2 (.string (objectText name (withDefault any.chars default))) =
      .ok (object [(name, ⟨any, true⟩)])) :
    ∃ rest, skipToClose 0 (tokens (default ++ [')', ' ', '}', ')'])) = .ok rest ∧
      Reads 1 rest (.fields [(name, ⟨any, true⟩)] [(name, ⟨any, true⟩)]) [.closing .round] := by
  have hread := read_of_ofValue (unwrap_objectChars name _) h nofun
  have htokens := tokens_objectChars hname (withDefault any.chars default) []
  have hargument : tokens (applied "optional" (withDefault any.chars default) ++ [' ', '}', ')']) =
      .ident "optional" :: .opening .round :: .ident "any" :: .comma ::
        tokens (default ++ [')', ' ', '}', ')']) := by
    rw [tokens_applied isName_optional, withDefault, chars, List.append_assoc, List.cons_append,
      List.cons_append, tokens_name isName_any (separated_cons (by decide) _),
      tokens_punctuation rfl, tokens_blank (by decide)]
  rw [List.append_nil, hargument] at htokens
  rw [htokens] at hread
  simp only [List.length_cons] at hread
  rw [read_object] at hread
  obtain ⟨fields, between, hfields, hclose, heq⟩ := closed_eq_ok hread
  cases object.inj heq
  rw [eq_of_expectClose hclose, readFields_field] at hfields
  obtain ⟨⟨type, rest⟩, htype, hmore⟩ := bind_eq_ok hfields
  rw [read_optional _ 0] at htype
  obtain ⟨inner, after, hinner, hskip, rfl⟩ := closed_eq_ok (f := id) htype
  rw [read_bare _ 0 "any" (by simp)] at hinner
  cases hinner
  exact ⟨rest, hskip, (reads_of_read_and_readFields _).2 _ _ _ _ _ hmore⟩

theorem front_of_commas {ts front commas rest : List Token}
    (hcommas : ∀ token ∈ commas, token = .comma)
    (h : ts ++ .closing .round :: rest = front ++ .closing .round :: (commas ++ rest)) :
    ts = front := by
  have hshort : ts ++ [.closing .round] = front ++ .closing .round :: commas := by
    apply (List.append_left_inj rest).1
    simpa using h
  obtain rfl | ⟨more, last, rfl⟩ := List.eq_nil_or_concat commas
  · exact List.append_cancel_right hshort
  · have hlast := congrArg List.getLast? hshort
    rw [hcommas last (by simp)] at hlast
    simp [List.getLast?_cons] at hlast

theorem tokens_end : tokens [')', ' ', '}', ')'] =
    [.closing .round, .closing .curly, .closing .round] := by
  rw [tokens_punctuation rfl, tokens_objectEnd, tokens]

/-- A default that is skipped up to the end of its attribute has its quotes and, outside of them,
its brackets closed. -/
theorem balanced_of_skipped {default : List Char} {rest : List Token}
    (hskip : skipToClose 0 (tokens (default ++ [')', ' ', '}', ')'])) = .ok rest)
    (hrest : rest.dropWhile (· = .comma) = [.closing .curly, .closing .round]) :
    default.count '"' % 2 = 0 ∧ Balanced (outside false default) := by
  obtain ⟨front, hfront, hopen⟩ := exists_of_skipToClose hskip
  rw [← List.takeWhile_append_dropWhile (p := (· = .comma)) (l := rest), hrest] at hfront
  have hquotes : default.count '"' % 2 = 0 := by
    obtain heven | hodd := Nat.mod_two_eq_zero_or_one (default.count '"')
    · exact heven
    · -- the last quote would take the closing brackets with it
      have hall : (default ++ [')', ' ', '}', ')']).count '"' % 2 = 1 := by
        rw [List.count_append]
        exact hodd
      obtain ⟨name, hlast⟩ := (cut_tokens _).getLast?_of_odd hall
      rw [hfront] at hlast
      simp [List.getLast?_cons] at hlast
  refine ⟨hquotes, ?_⟩
  rw [(cut_tokens default).append hquotes (stops_close _).1, tokens_end] at hfront
  have hcommas : ∀ token ∈ rest.takeWhile (· = .comma), token = .comma := fun token htoken =>
    of_decide_eq_true (List.all_eq_true.1 List.all_takeWhile token htoken)
  rw [← front_of_commas hcommas hfront, (cut_tokens default).openAfter?_eq] at hopen
  exact hopen

/-- A default that does not count has its quotes and, outside of them, its brackets closed. -/
theorem balanced_of_ignored {default : List Char} (h : Ignored default) :
    default.count '"' % 2 = 0 ∧ Balanced (outside false default) := by
  have hread : ∀ name, IsName name →
      ofValue 2 (.string (objectText name (withDefault any.chars default))) =
        .ok (object [(name, ⟨any, true⟩)]) := by
    intro name hname
    have hany : any.Expressible := by rw [Expressible]; trivial
    rw [h any name 2 hany hname, ofValue_objectText hname (readAs_optional (readAs_chars hany))]
    rfl
  -- One name could be that of a second attribute in the default; two names cannot.
  have hnameA : IsName "a" := by decide
  have hnameB : IsName "b" := by decide
  obtain ⟨rest, hskip, ha⟩ := skipped_of_ofValue hnameA (hread "a" hnameA)
  obtain ⟨rest', hskip', hb⟩ := skipped_of_ofValue hnameB (hread "b" hnameB)
  obtain rfl := Except.ok.inj (hskip.symm.trans hskip')
  exact balanced_of_skipped hskip (dropWhile_of_names (by decide) ha hb)

theorem ignored_iff {default : List Char} :
    Ignored default ↔ default.count '"' % 2 = 0 ∧ Balanced (outside false default) :=
  ⟨balanced_of_ignored, fun h => ignored_of_balanced h.1 h.2⟩

/-! ### Quoted defaults -/

/-- A text with a backslash before every quote and every backslash. -/
def escape (s : List Char) : List Char :=
  s.flatMap fun c => if c = '"' ∨ c = '\\' then ['\\', c] else [c]

/-- A text between quotes. -/
def quoted (s : List Char) : List Char := '"' :: (escape s ++ ['"'])

theorem escape_cons (c : Char) (s : List Char) :
    escape (c :: s) = (if c = '"' ∨ c = '\\' then ['\\', c] else [c]) ++ escape s := by
  rw [escape, List.flatMap_cons]
  rfl

theorem count_escape (s : List Char) : (escape s).count '"' = s.count '"' := by
  induction s with
  | nil => rfl
  | cons c s ih =>
    have hfirst : (if c = '"' ∨ c = '\\' then ['\\', c] else [c]).count '"' = [c].count '"' := by
      split
      · exact List.count_cons_of_ne (by decide)
      · rfl
    rw [escape_cons, List.count_append, hfirst, ih, ← List.count_append]
    rfl

theorem count_quoted (s : List Char) : (quoted s).count '"' = s.count '"' + 2 := by
  rw [quoted, List.count_cons_self, List.count_append, count_escape]
  rfl

theorem outside_cons_congr {rest s : List Char}
    (h : ∀ quoted, (outside quoted rest).filterMap punctuation? =
      (outside quoted s).filterMap punctuation?) (quoted : Bool) (c : Char) :
    (outside quoted (c :: rest)).filterMap punctuation? =
      (outside quoted (c :: s)).filterMap punctuation? := by
  rw [outside, outside]
  split
  · exact h _
  · split
    · exact h _
    · rw [List.filterMap_cons, List.filterMap_cons, h]

/-- Backslashes are no brackets, and nothing follows the last quote. -/
theorem outside_escape (quoted : Bool) (s : List Char) :
    (outside quoted (escape s ++ ['"'])).filterMap punctuation? =
      (outside quoted s).filterMap punctuation? := by
  induction s generalizing quoted with
  | nil => rfl
  | cons c s ih =>
    have hbackslash : ∀ rest, (outside quoted ('\\' :: rest)).filterMap punctuation? =
        (outside quoted rest).filterMap punctuation? := by
      intro rest
      cases quoted <;> rfl
    rw [escape_cons]
    split
    · rw [List.append_assoc, List.cons_append, hbackslash]
      exact outside_cons_congr ih quoted c
    · exact outside_cons_congr ih quoted c

theorem balanced_quoted {s : List Char} :
    Balanced (outside false (quoted s)) ↔ Balanced (outside true s) := by
  rw [quoted, outside_quote, Bool.not_false, Balanced, outside_escape, Balanced]

/-- A quoted default does not count exactly if the number of quotes in it is even and the brackets
that come after an odd number of them close: also with its backslash, a quote ends the text before
it. -/
theorem quoted_default_ignored_iff (s : String) :
    Ignored (quoted s.toList) ↔
      s.toList.count '"' % 2 = 0 ∧ Balanced (outside true s.toList) := by
  rw [ignored_iff, count_quoted, Nat.add_mod_right, balanced_quoted]

theorem quoted_default_ignored_pair : Ignored (quoted "the \"(new)\" one".toList) :=
  (quoted_default_ignored_iff "the \"(new)\" one").2 (by decide)

/-- With a single quote as the default of its attribute, an object is read as `any`. -/
theorem quote_not_ignored :
    ofValue 2 (.string (objectText "n" (withDefault (primitive .string).chars (quoted ['"'])))) =
      .ok any ∧
    ofValue 2 (.string (objectText "n" (primitive .string).chars)) =
      .ok (object [("n", ⟨primitive .string, true⟩)]) := by
  have hdefault : ofForm? 2 (.string (objectText "n"
      (withDefault (primitive .string).chars (quoted ['"'])))) = some any := by
    decide +kernel
  have hplain : ofForm? 2 (.string (objectText "n" (primitive .string).chars)) =
      some (object [("n", ⟨primitive .string, true⟩)]) := by
    decide +kernel
  exact ⟨by rw [ofValue, hdefault], by rw [ofValue, hplain]⟩

end InfraConfig.TypeConstraint
