import InfraConfig.Proofs.TypeConstraint.Reading
import InfraConfig.Proofs.TypeConstraint.Tokens
import InfraConfig.TypeConstraint.Reader
import InfraConfig.TypeConstraint.Text

/-! The expression of a type is read as that type, under exactly the bounds that the type keeps to.
What is read is stated with any text after the expression that does not go on with it (`ReadAs`):
then the expression of a constructor follows from those of its parts, and the fields of an object
one by one (`fieldsReadAs_texts`). -/
namespace InfraConfig.TypeConstraint

open InfraConfig.Text (isBlank)

/-- Whether a type can be written as an expression: there is no map with declared keys in it, and
the attributes of an object have names of their own, each of which is one token. -/
def Expressible : TypeConstraint → Prop
  | any | primitive _ => True
  | list item | set item | map item => item.Expressible
  | keyedMap _ _ => False
  | object fields =>
    (Keyed.keys fields).Nodup ∧
      ∀ name field, (name, field) ∈ fields → IsName name ∧ field.type.Expressible
termination_by t => sizeOf t
decreasing_by
  · decreasing_tactic
  · decreasing_tactic
  · decreasing_tactic
  · exact sizeOf_lt_object ‹_ ∈ fields›

/-! ### What follows an expression -/

/-- An expression does not go on with this text. -/
def Stops (rest : List Char) : Prop :=
  Separated rest ∧ (tokens rest).head? ≠ some (.opening .round)

theorem stops_nil : Stops [] := by
  refine ⟨separated_nil, ?_⟩
  rw [tokens]
  intro h
  cases h

theorem stops_of_punctuation {c : Char} {token : Token} (h : punctuation? c = some token)
    (hne : token ≠ .opening .round) (s : List Char) : Stops (c :: s) := by
  constructor
  · apply separated_cons
    cases hname : isNameChar c with
    | false => rfl
    | true =>
      rw [punctuation?_of_isNameChar hname] at h
      cases h
  · rw [tokens_punctuation h]
    exact fun heq => hne (Option.some.inj heq)

/-- The outcome of reading something of the given depth: it is refused without the levels. -/
def within {α : Type} (levels depth : Nat) (a : α) : Except Failure α :=
  if depth ≤ levels then .ok a else .error .tooDeep

theorem within_bind {α β : Type} (levels depth : Nat) {a : α} {next : α → Except Failure β} {b : β}
    (h : next a = .ok b) : within levels depth a >>= next = within levels depth b := by
  unfold within
  split
  · exact h
  · rfl

theorem within_succ {α : Type} (levels depth : Nat) (a : α) :
    within (levels + 1) (1 + depth) a = within levels depth a := by
  have hiff : 1 + depth ≤ levels + 1 ↔ depth ≤ levels := by omega
  simp only [within, hiff]

/-- A text is read as a type, whatever follows it. -/
def ReadAs (s : List Char) (t : TypeConstraint) : Prop :=
  ∀ fuel levels rest, Stops rest → (tokens (s ++ rest)).length < fuel →
    read fuel levels (tokens (s ++ rest)) = within levels t.depth (t, tokens rest)

theorem readAs_of_succ {s : List Char} {t : TypeConstraint}
    (h : ∀ fuel levels rest, Stops rest → (tokens (s ++ rest)).length ≤ fuel →
      read (fuel + 1) (levels + 1) (tokens (s ++ rest)) =
        within (levels + 1) t.depth (t, tokens rest)) :
    ReadAs s t := by
  intro fuel levels rest hstops hfuel
  cases fuel with
  | zero => cases hfuel
  | succ fuel =>
    cases levels with
    | zero =>
      -- Every type takes a level.
      have hdepth : ¬ t.depth ≤ 0 := Nat.not_le.2 t.depth_pos
      rw [within, if_neg hdepth]
      rfl
    | succ levels => exact h fuel levels rest hstops (Nat.le_of_lt_succ hfuel)

theorem ofName_name (p : Primitive) : ofName p.name = primitive p := by
  cases p <;> rfl

theorem readAs_name {name : String} (h : IsName name) : ReadAs name.toList (ofName name) := by
  apply readAs_of_succ
  intro fuel levels rest hstops _
  rw [tokens_name h hstops.1, read_bare fuel levels name hstops.2, within, depth_ofName, if_pos]
  omega

/-! ### Constructors -/

theorem isName_constructor {name : String} (h : name ∈ constructors) : IsName name := by
  have hall : ∀ name ∈ constructors, IsName name := by decide
  exact hall name h

theorem isName_of_collection {name : String} {make : TypeConstraint → TypeConstraint}
    (known : (name, make) ∈ collections) : IsName name := by
  apply isName_constructor
  simp only [collections, List.mem_cons, Prod.mk.injEq, List.not_mem_nil, or_false] at known
  rcases known with ⟨rfl, -⟩ | ⟨rfl, -⟩ | ⟨rfl, -⟩ <;> simp [constructors]

theorem isName_object : IsName "object" := isName_constructor (by simp [constructors])

theorem isName_optional : IsName "optional" := isName_constructor (by simp [constructors])

theorem tokens_applied {name : String} (h : IsName name) (argument rest : List Char) :
    tokens (applied name argument ++ rest) =
      .ident name :: .opening .round :: tokens (argument ++ ')' :: rest) := by
  have hshape : applied name argument ++ rest =
      name.toList ++ '(' :: (argument ++ ')' :: rest) := by
    simp [applied]
  rw [hshape, tokens_name h (separated_cons (by decide) _), tokens_punctuation rfl]

theorem stops_close (rest : List Char) : Stops (')' :: rest) :=
  stops_of_punctuation rfl (by decide) rest

theorem readAs_collection {name : String} {make : TypeConstraint → TypeConstraint}
    (known : (name, make) ∈ collections) {s : List Char} {item : TypeConstraint}
    (h : ReadAs s item) : ReadAs (applied name s) (make item) := by
  apply readAs_of_succ
  intro fuel levels rest _ hfuel
  rw [tokens_applied (isName_of_collection known)] at hfuel ⊢
  simp only [List.length_cons] at hfuel
  rw [read_collection fuel levels _ known, h fuel levels _ (stops_close rest) (by omega),
    depth_of_collection known, tokens_punctuation rfl, within_succ]
  exact within_bind levels item.depth rfl

/-- The mark of an attribute that may be absent takes no level. -/
theorem readAs_optional {s : List Char} {t : TypeConstraint} (h : ReadAs s t) :
    ReadAs (applied "optional" s) t := by
  apply readAs_of_succ
  intro fuel levels rest _ hfuel
  rw [tokens_applied isName_optional] at hfuel ⊢
  simp only [List.length_cons] at hfuel
  rw [read_optional, h fuel (levels + 1) _ (stops_close rest) (by omega), tokens_punctuation rfl]
  exact within_bind (levels + 1) t.depth rfl

/-! ### Fields -/

/-- The expression of the type of an attribute. -/
def attributeChars (field : Field TypeConstraint) : List Char :=
  if field.optional then applied "optional" field.type.chars else field.type.chars

theorem attributeTexts_eq (fields : List (String × Field TypeConstraint)) :
    attributeTexts fields =
      fields.map fun field => assigned field.1 (attributeChars field.2) := by
  induction fields with
  | nil => rfl
  | cons field rest ih =>
    obtain ⟨name, type, optional⟩ := field
    rw [attributeTexts, ih]
    rfl

theorem tokens_assigned {name : String} (h : IsName name) (type rest : List Char) :
    tokens (assigned name type ++ rest) = .ident name :: .assign :: tokens (type ++ rest) := by
  have hshape : assigned name type ++ rest = name.toList ++ ' ' :: '=' :: ' ' :: (type ++ rest) := by
    simp [assigned]
  rw [hshape, tokens_name h (separated_cons (by decide) _), tokens_blank (by decide),
    tokens_punctuation rfl, tokens_blank (by decide)]

/-- An attribute that can be written, and whose type is read again. -/
structure Written (name : String) (field : Field TypeConstraint) : Prop where
  isName : IsName name
  readAs : ReadAs (attributeChars field) field.type
  isOptional : ∀ rest, Stops rest → isOptional (tokens (attributeChars field ++ rest)) = field.optional

/-- A text is read as fields, after those read before it, up to the closing brace. -/
def FieldsReadAs (s : List Char) (fields : Keyed (Field TypeConstraint)) : Prop :=
  ∀ fuel levels before rest, (Keyed.keys (before ++ fields)).Nodup →
    (tokens (s ++ '}' :: rest)).length < fuel →
    readFields fuel levels before (tokens (s ++ '}' :: rest)) =
      within levels (depthOfAttributes fields) (before ++ fields, tokens rest)

theorem fieldsReadAs_nil : FieldsReadAs [] [] := by
  intro fuel levels before rest _ hfuel
  cases fuel with
  | zero => cases hfuel
  | succ fuel =>
    rw [List.nil_append, tokens_punctuation rfl, List.append_nil]
    exact (if_pos (Nat.zero_le levels)).symm

theorem fieldsReadAs_comma {s : List Char} {fields : Keyed (Field TypeConstraint)}
    (h : FieldsReadAs s fields) : FieldsReadAs ([',', ' '] ++ s) fields := by
  intro fuel levels before rest hnodup hfuel
  have htokens : tokens ([',', ' '] ++ s ++ '}' :: rest) = .comma :: tokens (s ++ '}' :: rest) := by
    show tokens (',' :: ' ' :: (s ++ '}' :: rest)) = _
    rw [tokens_punctuation rfl, tokens_blank (by decide)]
  rw [htokens] at hfuel ⊢
  cases fuel with
  | zero => cases hfuel
  | succ fuel => exact h fuel levels before rest hnodup (Nat.lt_of_succ_lt_succ hfuel)

theorem fieldsReadAs_cons {name : String} {field : Field TypeConstraint}
    (hfield : Written name field) {s : List Char} {fields : Keyed (Field TypeConstraint)}
    (hstops : ∀ rest, Stops (s ++ '}' :: rest)) (h : FieldsReadAs s fields) :
    FieldsReadAs (assigned name (attributeChars field) ++ s) ((name, field) :: fields) := by
  intro fuel levels before rest hnodup hfuel
  have hnew : name ∉ Keyed.keys before := by
    intro hmem
    rw [Keyed.keys, List.map_append, List.nodup_append] at hnodup
    exact hnodup.2.2 _ hmem _ (by simp) rfl
  rw [List.append_assoc, tokens_assigned hfield.isName] at hfuel ⊢
  cases fuel with
  | zero => cases hfuel
  | succ fuel =>
    simp only [List.length_cons] at hfuel
    have hread := hfield.readAs fuel levels _ (hstops rest) (by omega)
    rw [readFields_field, hread, hfield.isOptional _ (hstops rest)]
    obtain ⟨type, optional⟩ := field
    rw [depthOfAttributes, within, within]
    by_cases hdepth : type.depth ≤ levels
    · rw [within, if_pos hdepth] at hread
      have hlt := (reads_of_read hread).length_lt
      have hrest := h fuel levels (before ++ [(name, ⟨type, optional⟩)]) rest (by simpa using hnodup)
        (by omega)
      rw [if_pos hdepth]
      show readFields fuel levels (Keyed.insert before name ⟨type, optional⟩) _ = _
      rw [Keyed.insert_of_not_mem _ hnew, hrest, within, List.append_assoc, List.singleton_append]
      simp only [Nat.max_le, hdepth, true_and]
    · rw [if_neg hdepth, if_neg fun hmax => hdepth (Nat.max_le.1 hmax).1]
      rfl

theorem fieldsReadAs_texts {fields : Keyed (Field TypeConstraint)}
    (h : ∀ name field, (name, field) ∈ fields → Written name field) :
    FieldsReadAs ([',', ' '].intercalate (attributeTexts fields)) fields := by
  rw [attributeTexts_eq]
  induction fields with
  | nil => exact fieldsReadAs_nil
  | cons field rest ih =>
    obtain ⟨name, field⟩ := field
    have hfield := h name field List.mem_cons_self
    have hrest := ih fun other field hmem => h other field (List.mem_cons_of_mem _ hmem)
    cases rest with
    | nil =>
      rw [List.map_singleton, List.intercalate_singleton]
      have hlast := fieldsReadAs_cons hfield (stops_of_punctuation rfl (by decide)) fieldsReadAs_nil
      rwa [List.append_nil] at hlast
    | cons next rest =>
      rw [List.map_cons, List.map_cons, List.intercalate_cons_cons, List.append_assoc]
      exact fieldsReadAs_cons hfield
        (fun rest => stops_of_punctuation rfl (by decide) _) (fieldsReadAs_comma hrest)

theorem readAs_object {fields : Keyed (Field TypeConstraint)} (hnodup : (Keyed.keys fields).Nodup)
    (h : ∀ name field, (name, field) ∈ fields → Written name field) :
    ReadAs (object fields).chars (object fields) := by
  apply readAs_of_succ
  intro fuel levels rest _ hfuel
  have htokens : tokens ((object fields).chars ++ rest) =
      .ident "object" :: .opening .round :: .opening .curly ::
        tokens ([',', ' '].intercalate (attributeTexts fields) ++ '}' :: ')' :: rest) := by
    rw [chars, tokens_applied isName_object, braced, List.append_assoc, List.cons_append,
      tokens_punctuation rfl]
    rfl
  rw [htokens] at hfuel ⊢
  simp only [List.length_cons] at hfuel
  have hfields := fieldsReadAs_texts h fuel levels [] (')' :: rest) hnodup (by omega)
  rw [read_object, hfields, tokens_punctuation rfl, depth, within_succ]
  exact within_bind levels (depthOfAttributes fields) rfl

/-! ### Types -/

theorem isOptional_tokens_applied {name : String} (h : IsName name) (argument rest : List Char) :
    isOptional (tokens (applied name argument ++ rest)) = decide (name = "optional") := by
  rw [tokens_applied h]
  rfl

theorem isOptional_tokens_name {name : String} (h : IsName name) {rest : List Char}
    (hstops : Stops rest) : isOptional (tokens (name.toList ++ rest)) = false := by
  rw [tokens_name h hstops.1]
  have happlied := hstops.2
  cases htokens : tokens rest with
  | nil => rfl
  | cons token more =>
    rw [htokens] at happlied
    unfold isOptional
    split
    · next heq =>
      cases heq
      exact absurd rfl happlied
    · rfl

theorem isOptional_tokens_chars (t : TypeConstraint) {rest : List Char} (hstops : Stops rest) :
    isOptional (tokens (t.chars ++ rest)) = false := by
  cases t with
  | any => exact isOptional_tokens_name isName_any hstops
  | primitive p =>
    rw [chars]
    exact isOptional_tokens_name (isName_name p) hstops
  | _ =>
    rw [chars, isOptional_tokens_applied (isName_constructor (by simp [constructors]))]
    rfl

theorem written {name : String} {field : Field TypeConstraint} (hname : IsName name)
    (hread : ReadAs field.type.chars field.type) : Written name field := by
  obtain ⟨type, optional⟩ := field
  cases optional with
  | false => exact ⟨hname, hread, fun rest hstops => isOptional_tokens_chars type hstops⟩
  | true =>
    exact ⟨hname, readAs_optional hread, fun rest _ => isOptional_tokens_applied isName_optional _ rest⟩

/-- The expression of a type is read as the type, whatever follows it. -/
theorem readAs_chars {t : TypeConstraint} (h : t.Expressible) : ReadAs t.chars t := by
  induction t using TypeConstraint.induction with
  | any => exact readAs_name isName_any
  | primitive p =>
    rw [chars, ← ofName_name p]
    exact readAs_name (isName_name p)
  | list item ih =>
    rw [Expressible] at h
    rw [chars]
    exact readAs_collection (by simp [collections]) (ih h)
  | set item ih =>
    rw [Expressible] at h
    rw [chars]
    exact readAs_collection (by simp [collections]) (ih h)
  | map item ih =>
    rw [Expressible] at h
    rw [chars]
    exact readAs_collection (by simp [collections]) (ih h)
  | keyedMap fields items =>
    rw [Expressible] at h
    exact h.elim
  | object fields ih =>
    rw [Expressible] at h
    apply readAs_object h.1
    intro name field hmem
    obtain ⟨hname, htype⟩ := h.2 name field hmem
    exact written hname (ih name field hmem htype)

/-! ### Whole expressions -/

theorem ends_applied {name : String} (h : IsName name) (argument : List Char) :
    (∀ c, (applied name argument).head? = some c → isNameChar c = true) ∧
      ∀ c, (applied name argument).getLast? = some c → isBlank c = false := by
  constructor
  · intro c hc
    obtain ⟨first, more, hchars⟩ := List.exists_cons_of_ne_nil h.1
    rw [applied, hchars] at hc
    cases hc
    apply h.2 c
    rw [hchars]
    exact List.mem_cons_self
  · intro c hc
    rw [applied, List.getLast?_concat] at hc
    cases hc
    decide

theorem ends_name {name : String} (h : IsName name) :
    (∀ c, name.toList.head? = some c → isNameChar c = true) ∧
      ∀ c, name.toList.getLast? = some c → isBlank c = false :=
  ⟨fun c hc => h.2 c (List.mem_of_mem_head? hc),
    fun c hc => isBlank_of_isNameChar (h.2 c (List.mem_of_mem_getLast? hc))⟩

theorem unwrap_chars (t : TypeConstraint) : unwrap t.chars = t.chars := by
  have hends : (∀ c, t.chars.head? = some c → isNameChar c = true) ∧
      ∀ c, t.chars.getLast? = some c → isBlank c = false := by
    cases t with
    | any => exact ends_name isName_any
    | primitive p =>
      rw [chars]
      exact ends_name (isName_name p)
    | _ =>
      rw [chars]
      exact ends_applied (isName_constructor (by simp [constructors])) _
  exact unwrap_eq_self hends.1 hends.2

/-- A text that is read as a type, with nothing around it. -/
theorem ofForm?_of_readAs {s : List Char} {t : TypeConstraint} (hself : unwrap s = s)
    (h : ReadAs s t) (levels : Nat) :
    ofForm? levels (.string (String.ofList s)) = if t.depth ≤ levels then some t else none := by
  cases levels with
  | zero => rw [if_neg (Nat.not_le.2 t.depth_pos), ofForm?]
  | succ levels =>
    have hread := h _ (levels + 1) [] stops_nil (Nat.lt_succ_self _)
    rw [List.append_nil, tokens, within] at hread
    simp only [ofForm?, String.toList_ofList, ofExpression?, hself, hread]
    by_cases hdepth : t.depth ≤ levels + 1
    · rw [if_pos hdepth, if_pos hdepth]
    · rw [if_neg hdepth, if_neg hdepth]

theorem ofForm?_text {t : TypeConstraint} (h : t.Expressible) (levels : Nat) :
    ofForm? levels (.string t.text) = if t.depth ≤ levels then some t else none :=
  ofForm?_of_readAs (unwrap_chars t) (readAs_chars h) levels

/-- The expression of a type is read as the type under every bound that the type keeps to, and is
refused under every other. -/
theorem ofValue_text {t : TypeConstraint} (h : t.Expressible) (max : Nat) :
    ofValue max (.string t.text) = if t.depth ≤ max then .ok t else .error ⟨max⟩ := by
  rw [ofValue, ofForm?_text h]
  by_cases hdepth : t.depth ≤ max
  · rw [if_pos hdepth, if_pos hdepth]
  · rw [if_neg hdepth, if_neg hdepth]

theorem ofValue_text_tags :
    (object [("name", ⟨primitive .string, false⟩), ("tags", ⟨map any, true⟩)]).Expressible ∧
    ofValue 3 (.string (object [("name", ⟨primitive .string, false⟩), ("tags", ⟨map any, true⟩)]).text) =
      .ok (object [("name", ⟨primitive .string, false⟩), ("tags", ⟨map any, true⟩)]) ∧
    ofValue 2 (.string (object [("name", ⟨primitive .string, false⟩), ("tags", ⟨map any, true⟩)]).text) =
      .error ⟨2⟩ := by
  have h : (object [("name", ⟨primitive .string, false⟩), ("tags", ⟨map any, true⟩)]).Expressible := by
    simp only [Expressible, List.mem_cons, List.not_mem_nil, or_false, Prod.mk.injEq]
    refine ⟨by decide, ?_⟩
    rintro name field (⟨rfl, rfl⟩ | ⟨rfl, rfl⟩)
    · exact ⟨by decide, by simp only [Expressible]⟩
    · exact ⟨by decide, by simp only [Expressible]⟩
  exact ⟨h, ofValue_text h 3, ofValue_text h 2⟩

end InfraConfig.TypeConstraint
