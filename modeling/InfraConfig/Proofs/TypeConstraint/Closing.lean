import InfraConfig.Proofs.TypeConstraint.Cursor

/-! How far type expressions are read. Whatever the tokens are, a reader that moves a cursor over
them comes to an end; and if it succeeds, it has moved on, within the tokens, over a piece in which
as many brackets are closed as are opened (`Cursor.parse_balances`). Readers that begin within
brackets close those as well. What they all have in common is `Closes`, which the grammar of what is
read gives with one rule for each token. -/
namespace InfraConfig.TypeConstraint

/-! ### Counting brackets -/

namespace Token

def isOpening : Token → Bool
  | .opening _ => true
  | _ => false

def isClosing : Token → Bool
  | .closing _ => true
  | _ => false

end Token

/-- Any other token leaves open what is open. -/
theorem openAfter?_cons_of_not_bracket {token : Token} (hopening : token.isOpening = false)
    (hclosing : token.isClosing = false) (opened : Nat) (ts : List Token) :
    openAfter? opened (token :: ts) = openAfter? opened ts := by
  cases token with
  | opening => cases hopening
  | closing => cases hclosing
  | _ => simp only [openAfter?]

/-- How a token leads on from brackets that are open. -/
theorem openAfter?_cons_cases {opened left : Nat} {token : Token} {ts : List Token}
    (h : openAfter? opened (token :: ts) = some left) :
    (∃ b, token = .opening b ∧ openAfter? (opened + 1) ts = some left) ∨
    (∃ b still, token = .closing b ∧ opened = still + 1 ∧ openAfter? still ts = some left) ∨
    (token.isOpening = false ∧ token.isClosing = false ∧ openAfter? opened ts = some left) := by
  cases token with
  | opening b => exact .inl ⟨b, rfl, h⟩
  | closing b =>
    cases opened with
    | zero => cases h
    | succ still => exact .inr (.inl ⟨b, still, rfl, rfl, h⟩)
  | _ =>
    rw [openAfter?_cons_of_not_bracket rfl rfl] at h
    exact .inr (.inr ⟨rfl, rfl, h⟩)

/-- Brackets that are open all the time are open in the end. -/
theorem openAfter?_add {opened left : Nat} {ts : List Token} (h : openAfter? opened ts = some left)
    (more : Nat) : openAfter? (opened + more) ts = some (left + more) := by
  induction ts generalizing opened with
  | nil =>
    cases h
    rfl
  | cons token ts ih =>
    obtain ⟨b, rfl, hrest⟩ | ⟨b, still, rfl, rfl, hrest⟩ | ⟨hopening, hclosing, hrest⟩ :=
      openAfter?_cons_cases h
    · have hmore := ih hrest
      rwa [Nat.add_right_comm] at hmore
    · rw [Nat.add_right_comm]
      exact ih hrest
    · rw [openAfter?_cons_of_not_bracket hopening hclosing]
      exact ih hrest

/-- What is open in the end was open before or has been opened, and has not been closed. -/
theorem countP_of_openAfter? {opened left : Nat} {ts : List Token}
    (h : openAfter? opened ts = some left) :
    ts.countP Token.isClosing + left = ts.countP Token.isOpening + opened := by
  induction ts generalizing opened with
  | nil =>
    cases h
    rfl
  | cons token ts ih =>
    rw [List.countP_cons, List.countP_cons]
    obtain ⟨b, rfl, hrest⟩ | ⟨b, still, rfl, rfl, hrest⟩ | ⟨hopening, hclosing, hrest⟩ :=
      openAfter?_cons_cases h
    · have := ih hrest
      simp only [Token.isOpening, Token.isClosing, if_true, Bool.false_eq_true, if_false]
      omega
    · have := ih hrest
      simp only [Token.isOpening, Token.isClosing, if_true, Bool.false_eq_true, if_false]
      omega
    · have := ih hrest
      simp only [hopening, hclosing]
      omega

theorem openAfter?_append {opened between left : Nat} {front back : List Token}
    (hfront : openAfter? opened front = some between)
    (hback : openAfter? between back = some left) :
    openAfter? opened (front ++ back) = some left := by
  induction front generalizing opened with
  | nil =>
    cases hfront
    exact hback
  | cons token front ih =>
    obtain ⟨b, rfl, hrest⟩ | ⟨b, still, rfl, rfl, hrest⟩ | ⟨hopening, hclosing, hrest⟩ :=
      openAfter?_cons_cases hfront
    · exact ih hrest
    · exact ih hrest
    · rw [List.cons_append, openAfter?_cons_of_not_bracket hopening hclosing]
      exact ih hrest

/-! ### Closing what is owed -/

/-- Between the two places all brackets are closed that are opened, and as many others as are
owed. -/
def Closes (owed : Nat) (ts rest : List Token) : Prop :=
  ∃ consumed, ts = consumed ++ rest ∧ openAfter? owed consumed = some 0

namespace Closes
variable {owed : Nat} {ts between rest : List Token}

theorem opening (h : Closes (owed + 1) ts rest) (b : Bracket) :
    Closes owed (.opening b :: ts) rest := by
  obtain ⟨consumed, rfl, hopen⟩ := h
  exact ⟨.opening b :: consumed, rfl, hopen⟩

theorem closing (b : Bracket) (rest : List Token) : Closes 1 (.closing b :: rest) rest :=
  ⟨[.closing b], rfl, rfl⟩

theorem other (h : Closes owed ts rest) {token : Token} (hopening : token.isOpening = false)
    (hclosing : token.isClosing = false) : Closes owed (token :: ts) rest := by
  obtain ⟨consumed, rfl, hopen⟩ := h
  refine ⟨token :: consumed, rfl, ?_⟩
  rwa [openAfter?_cons_of_not_bracket hopening hclosing]

theorem trans {more : Nat} (h : Closes owed ts between) (hmore : Closes more between rest) :
    Closes (owed + more) ts rest := by
  obtain ⟨front, rfl, hfront⟩ := h
  obtain ⟨back, rfl, hback⟩ := hmore
  refine ⟨front ++ back, (List.append_assoc ..).symm, ?_⟩
  have hleft := openAfter?_add hfront more
  rw [Nat.zero_add] at hleft
  exact openAfter?_append hleft hback

end Closes

theorem closes_of_skipToClose {nesting : Nat} {ts rest : List Token}
    (h : skipToClose nesting ts = .ok rest) : Closes (nesting + 1) ts rest := by
  obtain ⟨front, rfl, hfront⟩ := exists_of_skipToClose h
  have hskipped : Closes nesting (front ++ .closing .round :: rest) (.closing .round :: rest) :=
    ⟨front, rfl, hfront⟩
  exact hskipped.trans (.closing .round rest)

theorem closes_of_closeOptional {ts rest : List Token} (h : closeOptional ts = .ok rest) :
    Closes 1 ts rest := by
  unfold closeOptional at h
  split at h
  · exact closes_of_skipToClose h
  · rw [eq_of_expectClose h]
    exact .closing .round rest

/-- How many brackets that were open before a phrase are closed in it. -/
def Phrase.owed : Phrase → Nat
  | .type _ => 0
  | .fields _ _ => 1

/-- What is read closes the brackets that it opens, and the fields of an object close its brace. -/
theorem Reads.closes {levels : Nat} {ts rest : List Token} {phrase : Phrase}
    (h : Reads levels ts phrase rest) : Closes phrase.owed ts rest := by
  have hclose : ∀ rest, Closes 1 (.closing .round :: rest) rest := .closing .round
  induction h with
  | bare => exact ⟨[.ident _], rfl, rfl⟩
  | collection _ _ ih => exact ((ih.trans (hclose _)).opening .round).other rfl rfl
  | object _ ih =>
    exact (((ih.trans (hclose _)).opening .curly).opening .round).other rfl rfl
  | optional _ closed ih =>
    exact ((ih.trans (closes_of_closeOptional closed)).opening .round).other rfl rfl
  | unknown _ skipped => exact ((closes_of_skipToClose skipped).opening .round).other rfl rfl
  | noField => exact .closing .curly _
  | comma _ ih => exact ih.other rfl rfl
  | field _ _ ihfirst ihmore => exact ((ihfirst.trans ihmore).other rfl rfl).other rfl rfl

/-! ### Cursors -/

namespace Cursor

/-- The tokens from one place up to another. -/
def between (tokens : List Token) (start stop : Nat) : List Token := (tokens.take stop).drop start

/-- What a reader has moved over that has come from one place to another. -/
structure Consumes (tokens : List Token) (owed start stop : Nat) : Prop where
  advances : start < stop
  within : stop ≤ tokens.length
  /-- As many brackets are closed as are opened and are owed. -/
  counts : (between tokens start stop).countP Token.isClosing =
    (between tokens start stop).countP Token.isOpening + owed
  /-- No bracket is closed but the one that was opened, or owed, last. -/
  nested : openAfter? owed (between tokens start stop) = some 0

/-- A reader that comes to an end, in the same way with any steps more than there are tokens left,
and that has consumed what is owed if it succeeds. -/
def Balances (tokens : List Token) (owed : Nat) {α : Type} (x : Nat → Cursor α) (place : Nat) :
    Prop :=
  ∃ result, (∀ steps, tokens.length - place < steps → (x steps).outcome? place = some result) ∧
    ∀ a stop, result = .ok (a, stop) → Consumes tokens owed place stop

section Balances
variable {tokens : List Token} {place : Nat}

theorem Consumes.of_closes {owed stop : Nat} (hlt : place < stop) (hwithin : stop ≤ tokens.length)
    (h : Closes owed (tokens.drop place) (tokens.drop stop)) : Consumes tokens owed place stop := by
  obtain ⟨consumed, hconsumed, hopen⟩ := h
  have hdrop : tokens.drop place = between tokens place stop ++ tokens.drop stop := by
    have hle : place ≤ (tokens.take stop).length := by
      rw [List.length_take]
      omega
    rw [between, ← List.drop_append_of_le_length hle, List.take_append_drop]
  have hbetween : between tokens place stop = consumed :=
    List.append_cancel_right (hdrop.symm.trans hconsumed)
  rw [← hbetween] at hopen
  exact ⟨hlt, hwithin, countP_of_openAfter? hopen, hopen⟩

theorem Agrees.eq {α : Type} {result : Except Failure (α × List Token)}
    {outcome : Option (Except Failure (α × Nat))} (h : Agrees tokens result outcome) :
    outcome = some (result.map fun part => (part.1, tokens.length - part.2.length)) := by
  cases h with
  | failed failure => rfl
  | @reached a stop within =>
    have hstop : tokens.length - (tokens.drop stop).length = stop := by
      rw [List.length_drop]
      omega
    show _ = some (Except.ok (a, tokens.length - (tokens.drop stop).length))
    rw [hstop]

/-- A cursor agrees with a reader of lists; so it ends, and what that reader closes it has
consumed. -/
theorem balances_of_agrees {α : Type} {owed : Nat} {x : Nat → Cursor α}
    {result : Except Failure (α × List Token)}
    (h : ∀ steps, tokens.length - place < steps → Agrees tokens result ((x steps).outcome? place))
    (hread : ∀ a rest, result = .ok (a, rest) →
      rest.length < (tokens.drop place).length ∧ Closes owed (tokens.drop place) rest) :
    Balances tokens owed x place := by
  refine ⟨_, fun steps hsteps => (h steps hsteps).eq, fun a stop hstop => ?_⟩
  obtain ⟨rest, hresult, rfl⟩ :
      ∃ rest, result = .ok (a, rest) ∧ tokens.length - rest.length = stop := by
    cases result with
    | error failure => cases hstop
    | ok part =>
      cases hstop
      exact ⟨part.2, rfl, rfl⟩
  obtain ⟨hlt, hcloses⟩ := hread a rest hresult
  obtain ⟨consumed, hconsumed, hopen⟩ := hcloses
  have hrest : rest = tokens.drop (tokens.length - rest.length) :=
    List.suffix_iff_eq_drop.1
      (List.IsSuffix.trans ⟨consumed, hconsumed.symm⟩ (List.drop_suffix place tokens))
  rw [List.length_drop] at hlt
  refine .of_closes (by omega) (Nat.sub_le _ _) ⟨consumed, ?_, hopen⟩
  rwa [← hrest]

theorem balances_skipToClose (nesting : Nat) :
    Balances tokens (nesting + 1) (fun steps => skipToClose tokens steps nesting) place := by
  apply balances_of_agrees fun steps => agrees_skipToClose nesting
  intro _ rest hskip
  cases hresult : TypeConstraint.skipToClose nesting (tokens.drop place) with
  | error failure =>
    rw [hresult] at hskip
    cases hskip
  | ok left =>
    rw [hresult] at hskip
    cases hskip
    exact ⟨length_lt_of_skipToClose hresult, closes_of_skipToClose hresult⟩

theorem balances_parse (max depth : Nat) :
    Balances tokens 0 (fun steps => parse tokens max steps depth) place := by
  apply balances_of_agrees fun steps =>
    (agrees_read max _).1 steps depth place (Nat.lt_succ_self _)
  intro t rest hread
  have hreads := reads_of_read hread
  exact ⟨hreads.length_lt, hreads.closes⟩

theorem balances_parseMore (max depth : Nat) (fields : Keyed (Field TypeConstraint)) :
    Balances tokens 1 (fun steps => parseMore tokens max steps depth fields) place := by
  apply balances_of_agrees fun steps =>
    (agrees_read max _).2 steps depth fields place (Nat.lt_succ_self _)
  intro after rest hread
  have hreads := (reads_of_read_and_readFields _).2 _ _ _ _ _ hread
  exact ⟨hreads.length_lt, hreads.closes⟩

theorem balances_parseFields (max depth : Nat) :
    Balances tokens 0 (fun steps => parseFields tokens max steps depth) place := by
  apply balances_of_agrees fun steps =>
    agrees_parseFields (agrees_read max _).2 depth (Nat.lt_succ_self _)
  intro after rest hread
  unfold readBraced at hread
  split at hread
  · next more hbrace =>
    have hreads := (reads_of_read_and_readFields _).2 _ _ _ _ _ hread
    rw [hbrace]
    refine ⟨?_, hreads.closes.opening .curly⟩
    have := hreads.length_lt
    rw [List.length_cons]
    omega
  · cases hread

end Balances

/-- From any place among any tokens, within any bound on the depth, the readers end: they take no
more steps than there are tokens left, and one. What they have moved over if they succeed closes as
many brackets as it opens, and the brackets that were open before it: the brace of the fields, and
the brackets within which a reader skips. A type is what the reader of lists finds in the tokens
that are left. -/
theorem parse_balances (tokens : List Token) (max depth place : Nat) :
    Balances tokens 0 (fun steps => parse tokens max steps depth) place ∧
    Balances tokens 0 (fun steps => parseFields tokens max steps depth) place ∧
    (∀ fields, Balances tokens 1 (fun steps => parseMore tokens max steps depth fields) place) ∧
    (∀ nesting,
      Balances tokens (nesting + 1) (fun steps => skipToClose tokens steps nesting) place) ∧
    ∀ steps, tokens.length - place < steps → (parse tokens max steps depth).outcome? place =
      some ((read ((tokens.drop place).length + 1) (max + 1 - depth) (tokens.drop place)).map
        fun part => (part.1, tokens.length - part.2.length)) := by
  refine ⟨balances_parse max depth, balances_parseFields max depth, balances_parseMore max depth,
    balances_skipToClose, fun steps hsteps => ?_⟩
  have hleft : tokens.length - place < (tokens.drop place).length + 1 := by
    rw [List.length_drop]
    omega
  exact ((agrees_read max _).1 steps depth place hleft hsteps).eq

/-- A default is skipped up to the bracket that closes the constructor, by the number of brackets
and not by their shapes. -/
theorem parse_default_within :
    (parse (tokens "list(optional(number, [x)))".toList) 2 10 2).outcome? 2 =
      some (.ok (primitive .number, 10)) ∧
    Consumes (tokens "list(optional(number, [x)))".toList) 0 2 10 := by
  obtain ⟨⟨result, houtcome, hconsumes⟩, -, -, -, hread⟩ :=
    parse_balances (tokens "list(optional(number, [x)))".toList) 2 2 2
  have htokens : tokens "list(optional(number, [x)))".toList =
      [.ident "list", .opening .round, .ident "optional", .opening .round, .ident "number", .comma,
        .opening .square, .ident "x", .closing .round, .closing .round, .closing .round] := by
    decide +kernel
  have hsteps : (tokens "list(optional(number, [x)))".toList).length - 2 < 10 := by
    rw [htokens]
    decide
  have hnumber : (parse (tokens "list(optional(number, [x)))".toList) 2 10 2).outcome? 2 =
      some (.ok (primitive .number, 10)) := by
    rw [hread 10 hsteps, htokens]
    rfl
  have hresult := houtcome 10 hsteps
  rw [hnumber] at hresult
  cases hresult
  exact ⟨hnumber, hconsumes _ _ rfl⟩

end Cursor

end InfraConfig.TypeConstraint
