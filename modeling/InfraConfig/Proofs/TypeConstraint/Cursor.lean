import InfraConfig.Proofs.TypeConstraint.Defaults

/-! Reading type expressions with a cursor. The readers of `Cursor` share all tokens and a place
among them, which may lie behind the last token. They loop and call each other, and nothing in the
tokens makes them end: what does is a number of steps, each of which is one round of a loop or one
call, and a reader that has not ended by then comes to nothing. `agrees_read` is the tie to `read`:
with more steps than there are tokens left, a cursor ends, and finds what `read` finds in the tokens
that are left. It is an induction with one step for types and one for the fields of an object. -/
namespace InfraConfig.TypeConstraint

/-- A reader that moves a cursor over tokens. It may fail, and it may not come to an end, which is
what `none` stands for. -/
abbrev Cursor (α : Type) : Type := StateT Nat (ExceptT Failure Option) α

namespace Cursor

/-- A reader that has taken all its steps. -/
def unfinished {α : Type} : Cursor α := fun _ => ExceptT.mk none

section Readers
variable (tokens : List Token) (max : Nat)

/-- The token under the cursor, if there is one. -/
def peek : Cursor (Option Token) := return tokens[← get]?

/-- The token under the cursor, if there is one. The cursor moves on in any case. -/
def next : Cursor (Option Token) := do
  let place ← get
  modify (· + 1)
  return tokens[place]?

/-- Moves over a token that has to come next. -/
def expect (token : Token) : Cursor Unit := do
  if (← next tokens) = some token then return () else throw .malformed

/-- Moves behind the round bracket that closes the current constructor, given how many other
brackets are open within it. -/
def skipToClose : Nat → Nat → Cursor Unit
  | 0, _ => unfinished
  | steps + 1, nesting => do
    match ← next tokens with
    | some (.opening _) => skipToClose steps (nesting + 1)
    | some (.closing b) =>
      match nesting with
      | 0 => if b = .round then return () else throw .malformed
      | nesting + 1 => skipToClose steps nesting
    | some _ => skipToClose steps nesting
    | none => throw .malformed

/-- Moves behind the end of a constructor that takes more than a type. -/
def closeOptional (steps : Nat) : Cursor Unit := do
  if (← peek tokens) = some .comma then skipToClose tokens steps 0
  else expect tokens (.closing .round)

/-- Whether the type that comes next is marked as one of a field that may be absent. -/
def nextIsOptional : Cursor Bool := return isOptional (tokens.drop (← get))

mutual

/-- Reads a type at a depth of nesting, which may not exceed the greatest. -/
def parse : Nat → Nat → Cursor TypeConstraint
  | 0, _ => unfinished
  | steps + 1, depth => do
    if max < depth then throw .tooDeep
    else match ← next tokens with
      | some (.ident name) =>
        if (← peek tokens) = some (.opening .round) then do
          let _ ← next tokens
          parseApplied steps depth name
        else return ofName name
      | _ => throw .malformed

/-- Reads what stands between the brackets behind a name, and the closing one. -/
def parseApplied : Nat → Nat → String → Cursor TypeConstraint
  | 0, _, _ => unfinished
  | steps + 1, depth, name => do
    if name = "list" then do
      let item ← parse steps (depth + 1)
      expect tokens (.closing .round)
      return list item
    else if name = "set" then do
      let item ← parse steps (depth + 1)
      expect tokens (.closing .round)
      return set item
    else if name = "map" then do
      let item ← parse steps (depth + 1)
      expect tokens (.closing .round)
      return map item
    else if name = "object" then do
      let fields ← parseFields steps (depth + 1)
      expect tokens (.closing .round)
      return object fields
    else if name = "optional" then do
      let inner ← parse steps depth
      closeOptional tokens steps
      return inner
    else do
      skipToClose tokens steps 0
      return any

/-- Reads the fields of an object with the braces around them. -/
def parseFields : Nat → Nat → Cursor (Keyed (Field TypeConstraint))
  | 0, _ => unfinished
  | steps + 1, depth => do
    expect tokens (.opening .curly)
    parseMore steps depth []

/-- Reads the fields of an object up to the closing brace, after the fields read so far. -/
def parseMore : Nat → Nat → Keyed (Field TypeConstraint) → Cursor (Keyed (Field TypeConstraint))
  | 0, _, _ => unfinished
  | steps + 1, depth, fields => do
    match ← next tokens with
    | some (.closing .curly) => return fields
    | some .comma => parseMore steps depth fields
    | some (.ident name) =>
      expect tokens .assign
      let optional ← nextIsOptional tokens
      let type ← parse steps depth
      parseMore steps depth (Keyed.insert fields name ⟨type, optional⟩)
    | _ => throw .malformed

end

end Readers

/-! ### One reader at a place -/

/-- What becomes of a reader that starts at a place: nothing, if it does not come to an end. -/
def outcome? {α : Type} (x : Cursor α) (place : Nat) : Option (Except Failure (α × Nat)) :=
  (x.run place).run

section Places
variable {α β : Type} {tokens : List Token} {place : Nat}

theorem outcome?_next_bind (f : Option Token → Cursor α) :
    (next tokens >>= f).outcome? place = (f tokens[place]?).outcome? (place + 1) := rfl

theorem outcome?_peek_bind (f : Option Token → Cursor α) :
    (peek tokens >>= f).outcome? place = (f tokens[place]?).outcome? place := rfl

theorem outcome?_nextIsOptional_bind (f : Bool → Cursor α) :
    (nextIsOptional tokens >>= f).outcome? place =
      (f (isOptional (tokens.drop place))).outcome? place := rfl

theorem outcome?_expect_bind (token : Token) (f : Unit → Cursor α) :
    (expect tokens token >>= f).outcome? place =
      if tokens[place]? = some token then (f ()).outcome? (place + 1)
      else some (.error .malformed) := by
  rw [expect, bind_assoc, outcome?_next_bind]
  split <;> rfl

theorem outcome?_bind (x : Cursor α) (f : α → Cursor β) :
    (x >>= f).outcome? place = (x.outcome? place).bind fun result =>
      match result with
      | .error failure => some (.error failure)
      | .ok part => (f part.1).outcome? part.2 := by
  show (x.run place >>= fun part => (f part.1).run part.2).run = _
  rw [ExceptT.run_bind]
  refine congrArg (x.outcome? place).bind (funext fun result => ?_)
  cases result <;> rfl

/-- What a reader of a list of tokens finds is what becomes of a cursor. -/
inductive Agrees (tokens : List Token) {α : Type} :
    Except Failure (α × List Token) → Option (Except Failure (α × Nat)) → Prop where
  | failed (failure : Failure) : Agrees tokens (.error failure) (some (.error failure))
  | reached (a : α) {stop : Nat} (within : stop ≤ tokens.length) :
    Agrees tokens (.ok (a, tokens.drop stop)) (some (.ok (a, stop)))

namespace Agrees

theorem bind {x : Cursor α} {f : α → Cursor β} {result : Except Failure (α × List Token)}
    {g : α × List Token → Except Failure (β × List Token)}
    (hx : Agrees tokens result (x.outcome? place))
    (hf : ∀ a stop, stop ≤ tokens.length → result = .ok (a, tokens.drop stop) →
      Agrees tokens (g (a, tokens.drop stop)) ((f a).outcome? stop)) :
    Agrees tokens (result >>= g) ((x >>= f).outcome? place) := by
  rw [outcome?_bind]
  generalize x.outcome? place = outcome at hx
  cases hx with
  | failed failure => exact .failed failure
  | reached a within => exact hf a _ within rfl

/-- A reader without a result of its own, of which only the place behind it counts. -/
theorem map {x : Cursor Unit} {result : Except Failure (List Token)}
    (hx : Agrees tokens (result.map ((), ·)) (x.outcome? place)) (a : α) :
    Agrees tokens (result.map (a, ·)) ((x >>= fun _ => pure a).outcome? place) := by
  have hbind := hx.bind (f := fun _ => pure a) (g := fun part => .ok (a, part.2))
    fun _ stop within _ => .reached a within
  cases result <;> exact hbind

end Agrees

/-! ### Tokens from a place on -/

theorem drop_of_getElem?_eq_some {token : Token} (h : tokens[place]? = some token) :
    tokens.drop place = token :: tokens.drop (place + 1) ∧ place + 1 ≤ tokens.length := by
  obtain ⟨hlt, rfl⟩ := List.getElem?_eq_some_iff.1 h
  exact ⟨List.drop_eq_getElem_cons hlt, hlt⟩

theorem drop_of_getElem?_eq_none (h : tokens[place]? = none) : tokens.drop place = [] :=
  List.drop_eq_nil_of_le (List.getElem?_eq_none_iff.1 h)

theorem expectClose_of_ne {ts : List Token} (h : ts.head? ≠ some (.closing .round)) :
    expectClose ts = .error .malformed := by
  unfold expectClose
  split
  · exact absurd rfl h
  · rfl

theorem agrees_expectClose :
    Agrees tokens ((expectClose (tokens.drop place)).map ((), ·))
      ((expect tokens (.closing .round)).outcome? place) := by
  rw [← bind_pure (expect tokens (.closing .round)), outcome?_expect_bind]
  split
  · next hclose =>
    obtain ⟨hdrop, hwithin⟩ := drop_of_getElem?_eq_some hclose
    rw [hdrop]
    exact .reached () hwithin
  · next hclose =>
    rw [← List.head?_drop] at hclose
    rw [expectClose_of_ne hclose]
    exact .failed .malformed

theorem agrees_skipToClose {steps : Nat} (nesting : Nat) (h : tokens.length - place < steps) :
    Agrees tokens ((TypeConstraint.skipToClose nesting (tokens.drop place)).map ((), ·))
      ((skipToClose tokens steps nesting).outcome? place) := by
  induction steps generalizing nesting place with
  | zero => exact absurd h (Nat.not_lt_zero _)
  | succ steps ih =>
    rw [skipToClose, outcome?_next_bind]
    cases htoken : tokens[place]? with
    | none =>
      rw [drop_of_getElem?_eq_none htoken]
      exact .failed .malformed
    | some token =>
      obtain ⟨hdrop, hwithin⟩ := drop_of_getElem?_eq_some htoken
      have hleft : tokens.length - (place + 1) < steps := by omega
      rw [hdrop]
      cases token with
      | closing b =>
        cases nesting with
        | zero =>
          simp only [TypeConstraint.skipToClose]
          split
          · exact .reached () hwithin
          · exact .failed .malformed
        | succ nesting => exact ih nesting hleft
      | opening b =>
        simp only [TypeConstraint.skipToClose]
        exact ih (nesting + 1) hleft
      | _ =>
        simp only [TypeConstraint.skipToClose]
        exact ih nesting hleft

theorem agrees_closeOptional {steps : Nat} (h : tokens.length - place < steps) :
    Agrees tokens ((TypeConstraint.closeOptional (tokens.drop place)).map ((), ·))
      ((closeOptional tokens steps).outcome? place) := by
  rw [TypeConstraint.closeOptional, List.head?_drop, closeOptional, outcome?_peek_bind]
  split
  · exact agrees_skipToClose 0 h
  · exact agrees_expectClose

/-! ### Names before brackets -/

section Applied
variable (tokens) (max steps depth : Nat)

theorem parseApplied_collection {name : String} {make : TypeConstraint → TypeConstraint}
    (h : (name, make) ∈ collections) :
    parseApplied tokens max (steps + 1) depth name =
      parse tokens max steps (depth + 1) >>= fun item =>
        expect tokens (.closing .round) >>= fun _ => pure (make item) := by
  simp only [collections, List.mem_cons, Prod.mk.injEq, List.not_mem_nil, or_false] at h
  rw [parseApplied]
  rcases h with ⟨rfl, rfl⟩ | ⟨rfl, rfl⟩ | ⟨rfl, rfl⟩ <;> rfl

theorem parseApplied_object :
    parseApplied tokens max (steps + 1) depth "object" =
      parseFields tokens max steps (depth + 1) >>= fun fields =>
        expect tokens (.closing .round) >>= fun _ => pure (object fields) := by
  rw [parseApplied]
  rfl

theorem parseApplied_optional :
    parseApplied tokens max (steps + 1) depth "optional" =
      parse tokens max steps depth >>= fun inner =>
        closeOptional tokens steps >>= fun _ => pure inner := by
  rw [parseApplied]
  rfl

theorem parseApplied_unknown {name : String} (h : name ∉ constructors) :
    parseApplied tokens max (steps + 1) depth name =
      skipToClose tokens steps 0 >>= fun _ => pure any := by
  simp only [constructors, List.mem_cons, List.not_mem_nil, or_false, not_or] at h
  obtain ⟨hlist, hset, hmap, hobject, hoptional⟩ := h
  rw [parseApplied, if_neg hlist, if_neg hset, if_neg hmap, if_neg hobject, if_neg hoptional]

end Applied

/-! ### All readers -/

/-- Reads the fields of an object with the braces around them. -/
def readBraced (fuel levels : Nat) :
    List Token → Except Failure (Keyed (Field TypeConstraint) × List Token)
  | .opening .curly :: rest => readFields fuel levels [] rest
  | _ => .error .malformed

theorem readBraced_of_ne (fuel levels : Nat) {ts : List Token}
    (h : ts.head? ≠ some (.opening .curly)) : readBraced fuel levels ts = .error .malformed := by
  unfold readBraced
  split
  · exact absurd rfl h
  · rfl

theorem readFields_of_ne (fuel levels : Nat) (fields : Keyed (Field TypeConstraint)) (name : String)
    {ts : List Token} (h : ts.head? ≠ some .assign) :
    readFields (fuel + 1) levels fields (.ident name :: ts) = .error .malformed := by
  cases ts with
  | nil => rfl
  | cons token ts =>
    cases token with
    | assign => exact absurd rfl h
    | _ => rfl

theorem read_object_braced (fuel levels : Nat) (ts : List Token) :
    read (fuel + 1) (levels + 1) (.ident "object" :: .opening .round :: ts) =
      readBraced fuel levels ts >>= fun part => (expectClose part.2).map (object part.1, ·) := by
  by_cases hcurly : ts.head? = some (.opening .curly)
  · obtain ⟨rest, rfl⟩ := List.head?_eq_some_iff.1 hcurly
    exact read_object fuel levels rest
  · rw [read_object_of_ne fuel levels hcurly, readBraced_of_ne fuel levels hcurly]
    rfl

section Agreement
variable {max fuel steps : Nat}
  (ihread : ∀ steps depth place, tokens.length - place < fuel → tokens.length - place < steps →
    Agrees tokens (read fuel (max + 1 - depth) (tokens.drop place))
      ((parse tokens max steps depth).outcome? place))
  (ihfields : ∀ steps depth fields place, tokens.length - place < fuel →
    tokens.length - place < steps →
    Agrees tokens (readFields fuel (max + 1 - depth) fields (tokens.drop place))
      ((parseMore tokens max steps depth fields).outcome? place))

include ihfields in
theorem agrees_parseFields (depth : Nat) (h : tokens.length - place < fuel)
    (hsteps : tokens.length - place < steps) :
    Agrees tokens (readBraced fuel (max + 1 - depth) (tokens.drop place))
      ((parseFields tokens max steps depth).outcome? place) := by
  obtain ⟨steps, rfl⟩ := Nat.exists_eq_add_one_of_ne_zero (Nat.ne_zero_of_lt hsteps)
  rw [parseFields, outcome?_expect_bind]
  split
  · next hopen =>
    obtain ⟨hdrop, hwithin⟩ := drop_of_getElem?_eq_some hopen
    rw [hdrop]
    exact ihfields steps depth [] (place + 1) (by omega) (by omega)
  · next hopen =>
    rw [readBraced_of_ne fuel _ (by rwa [List.head?_drop])]
    exact .failed .malformed

include ihread ihfields

theorem agrees_parseApplied {depth levels : Nat} (name : String)
    (hlevels : max + 1 - depth = levels + 1) (h : tokens.length - place < fuel)
    (hsteps : tokens.length - place < steps) :
    Agrees tokens
      (read (fuel + 1) (levels + 1) (.ident name :: .opening .round :: tokens.drop place))
      ((parseApplied tokens max (steps + 1) depth name).outcome? place) := by
  have hdeeper : max + 1 - (depth + 1) = levels := by omega
  obtain ⟨make, hknown⟩ | rfl | rfl | hunknown := constructor_cases name
  · rw [read_collection fuel levels _ hknown, parseApplied_collection tokens max steps depth hknown]
    have hitem := ihread steps (depth + 1) place h hsteps
    rw [hdeeper] at hitem
    exact hitem.bind fun item stop _ _ => agrees_expectClose.map (make item)
  · rw [read_object_braced, parseApplied_object]
    have hfields := agrees_parseFields ihfields (depth + 1) h hsteps
    rw [hdeeper] at hfields
    exact hfields.bind fun fields stop _ _ => agrees_expectClose.map (object fields)
  · rw [read_optional, parseApplied_optional, ← hlevels]
    refine (ihread steps depth place h hsteps).bind fun inner stop _ hread => ?_
    have hlt := (reads_of_read hread).length_lt
    simp only [List.length_drop] at hlt
    exact (agrees_closeOptional (by omega)).map inner
  · rw [read_unknown fuel levels _ hunknown, parseApplied_unknown tokens max steps depth hunknown]
    exact (agrees_skipToClose 0 hsteps).map any

theorem agrees_parse_step (steps depth place : Nat) (h : tokens.length - place < fuel + 1)
    (hsteps : tokens.length - place < steps) :
    Agrees tokens (read (fuel + 1) (max + 1 - depth) (tokens.drop place))
      ((parse tokens max steps depth).outcome? place) := by
  obtain ⟨steps, rfl⟩ := Nat.exists_eq_add_one_of_ne_zero (Nat.ne_zero_of_lt hsteps)
  rw [parse]
  by_cases hdeep : max < depth
  · have hlevels : max + 1 - depth = 0 := by omega
    rw [if_pos hdeep, hlevels]
    exact .failed .tooDeep
  · obtain ⟨levels, hlevels⟩ : ∃ levels, max + 1 - depth = levels + 1 := ⟨max - depth, by omega⟩
    rw [if_neg hdeep, hlevels, outcome?_next_bind]
    cases htoken : tokens[place]? with
    | none =>
      rw [drop_of_getElem?_eq_none htoken]
      exact .failed .malformed
    | some token =>
      obtain ⟨hdrop, hwithin⟩ := drop_of_getElem?_eq_some htoken
      rw [hdrop]
      cases token with
      | ident name =>
        show Agrees tokens _ ((peek tokens >>= _).outcome? (place + 1))
        rw [outcome?_peek_bind]
        by_cases happlied : tokens[place + 1]? = some (.opening .round)
        · obtain ⟨hmore, hwithin⟩ := drop_of_getElem?_eq_some happlied
          -- The name and the bracket pay for the call and for the steps within.
          obtain ⟨within, rfl⟩ : ∃ within, steps = within + 1 := ⟨steps - 1, by omega⟩
          rw [if_pos happlied, outcome?_next_bind, hmore]
          exact agrees_parseApplied ihread ihfields name hlevels (by omega) (by omega)
        · have hhead : (tokens.drop (place + 1)).head? ≠ some (.opening .round) := by
            rwa [List.head?_drop]
          rw [if_neg happlied, read_bare fuel levels name hhead]
          exact .reached _ hwithin
      | _ => exact .failed .malformed

theorem agrees_parseMore_step (steps depth : Nat) (fields : Keyed (Field TypeConstraint))
    (place : Nat) (h : tokens.length - place < fuel + 1) (hsteps : tokens.length - place < steps) :
    Agrees tokens (readFields (fuel + 1) (max + 1 - depth) fields (tokens.drop place))
      ((parseMore tokens max steps depth fields).outcome? place) := by
  obtain ⟨steps, rfl⟩ := Nat.exists_eq_add_one_of_ne_zero (Nat.ne_zero_of_lt hsteps)
  rw [parseMore, outcome?_next_bind]
  cases htoken : tokens[place]? with
  | none =>
    rw [drop_of_getElem?_eq_none htoken]
    exact .failed .malformed
  | some token =>
    obtain ⟨hdrop, hwithin⟩ := drop_of_getElem?_eq_some htoken
    rw [hdrop]
    cases token with
    | comma => exact ihfields steps depth fields (place + 1) (by omega) (by omega)
    | closing b =>
      cases b with
      | curly => exact .reached fields hwithin
      | _ => exact .failed .malformed
    | ident name =>
      show Agrees tokens _ ((expect tokens .assign >>= _).outcome? (place + 1))
      rw [outcome?_expect_bind]
      split
      · next hassign =>
        rw [(drop_of_getElem?_eq_some hassign).1, readFields_field, outcome?_nextIsOptional_bind]
        have htype := ihread steps depth (place + 2) (by omega) (by omega)
        refine htype.bind fun type stop _ hread => ?_
        have hlt := (reads_of_read hread).length_lt
        simp only [List.length_drop] at hlt
        exact ihfields steps depth _ stop (by omega) (by omega)
      · next hassign =>
        rw [← List.head?_drop] at hassign
        rw [readFields_of_ne fuel _ fields name hassign]
        exact .failed .malformed
    | _ => exact .failed .malformed

end Agreement

/-- A cursor over all tokens finds what the reader of a list finds in the tokens from its place on,
if both may take more steps than there are tokens left. -/
theorem agrees_read (max fuel : Nat) :
    (∀ steps depth place, tokens.length - place < fuel → tokens.length - place < steps →
      Agrees tokens (read fuel (max + 1 - depth) (tokens.drop place))
        ((parse tokens max steps depth).outcome? place)) ∧
    (∀ steps depth fields place, tokens.length - place < fuel → tokens.length - place < steps →
      Agrees tokens (readFields fuel (max + 1 - depth) fields (tokens.drop place))
        ((parseMore tokens max steps depth fields).outcome? place)) := by
  induction fuel with
  | zero =>
    constructor
    · exact fun _ _ _ h => absurd h (Nat.not_lt_zero _)
    · exact fun _ _ _ _ h => absurd h (Nat.not_lt_zero _)
  | succ fuel ih => exact ⟨agrees_parse_step ih.1 ih.2, agrees_parseMore_step ih.1 ih.2⟩

end Places

end Cursor

end InfraConfig.TypeConstraint
