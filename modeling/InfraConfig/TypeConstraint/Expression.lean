import InfraConfig.Text.Blank
import InfraConfig.Text.CharClass
import InfraConfig.TypeConstraint.Basic

/-! Reading type expressions. An expression is cut into tokens and read by recursive descent with a
bound on the levels of nesting. A constructor that is not known, and any expression that does not
follow the grammar, stands for `any`; only too deep a nesting is refused. -/
namespace InfraConfig.TypeConstraint

open InfraConfig.Text (isBlank isAlphanumeric trim)

/-- The three shapes of brackets. -/
inductive Bracket where
  | round
  | curly
  | square
deriving DecidableEq, Repr

/-- A token of a type expression. -/
inductive Token where
  | ident (name : String)
  | opening (b : Bracket)
  | closing (b : Bracket)
  | assign
  | comma
  | unexpected
deriving DecidableEq, Repr

/-- A character of a bare name. -/
def isNameChar (c : Char) : Bool := isAlphanumeric c || c == '_' || c == '-'

/-- The token of a character that is a token by itself. -/
def punctuation? : Char → Option Token
  | '(' => some (.opening .round)
  | ')' => some (.closing .round)
  | '{' => some (.opening .curly)
  | '}' => some (.closing .curly)
  | '[' => some (.opening .square)
  | ']' => some (.closing .square)
  | '=' | ':' => some .assign
  | ',' => some .comma
  | _ => none

/-- The tokens of an expression. A name may stand between quotes; without a closing quote it goes
on to the end. -/
def tokens : List Char → List Token
  | [] => []
  | c :: s =>
    if isBlank c then tokens s
    else match punctuation? c with
      | some token => token :: tokens s
      | none =>
        if c = '"' then
          .ident (String.ofList (s.takeWhile (· ≠ '"'))) :: tokens ((s.dropWhile (· ≠ '"')).drop 1)
        else if isNameChar c then
          .ident (String.ofList (c :: s.takeWhile isNameChar)) :: tokens (s.dropWhile isNameChar)
        else .unexpected :: tokens s
termination_by s => s.length
decreasing_by
  · simp
  · simp
  · have := (List.dropWhile_suffix (· ≠ '"') (l := s)).length_le
    simp only [List.length_drop, List.length_cons]
    omega
  · have := (List.dropWhile_suffix isNameChar (l := s)).length_le
    simp only [List.length_cons]
    omega
  · simp

/-- Why an expression is not read. -/
inductive Failure where
  | malformed
  | tooDeep
deriving DecidableEq, Repr

/-- The tokens after the round bracket that closes the current constructor, given how many other
brackets are open within it. -/
def skipToClose : Nat → List Token → Except Failure (List Token)
  | _, [] => .error .malformed
  | nesting, .opening _ :: rest => skipToClose (nesting + 1) rest
  | 0, .closing b :: rest => if b = .round then .ok rest else .error .malformed
  | nesting + 1, .closing _ :: rest => skipToClose nesting rest
  | nesting, _ :: rest => skipToClose nesting rest

/-- What is left after the round bracket that has to come next. -/
def expectClose : List Token → Except Failure (List Token)
  | .closing .round :: rest => .ok rest
  | _ => .error .malformed

/-- The type of a bare name. -/
def ofName (name : String) : TypeConstraint :=
  if name = "string" then primitive .string
  else if name = "number" then primitive .number
  else if name = "bool" then primitive .bool
  else any

/-- Whether the type of a field that follows is marked as one that may be absent. -/
def isOptional : List Token → Bool
  | .ident name :: .opening .round :: _ => name = "optional"
  | _ => false

mutual

/-- Reads a type with the given levels of nesting left. The first argument bounds the number of
steps; as many as there are tokens suffice. -/
def read : (fuel levels : Nat) → List Token → Except Failure (TypeConstraint × List Token)
  | 0, _, _ => .error .malformed
  | _ + 1, 0, _ => .error .tooDeep
  | fuel + 1, levels + 1, .ident name :: .opening .round :: rest => do
    if name = "list" then
      let (item, rest) ← read fuel levels rest
      return (list item, ← expectClose rest)
    else if name = "set" then
      let (item, rest) ← read fuel levels rest
      return (set item, ← expectClose rest)
    else if name = "map" then
      let (item, rest) ← read fuel levels rest
      return (map item, ← expectClose rest)
    else if name = "object" then
      match rest with
      | .opening .curly :: rest =>
        let (fields, rest) ← readFields fuel levels [] rest
        return (object fields, ← expectClose rest)
      | _ => .error .malformed
    else if name = "optional" then
      let (inner, rest) ← read fuel (levels + 1) rest
      match rest with
      | .comma :: _ => return (inner, ← skipToClose 0 rest)
      | _ => return (inner, ← expectClose rest)
    else return (any, ← skipToClose 0 rest)
  | _ + 1, _ + 1, .ident name :: rest => .ok (ofName name, rest)
  | _ + 1, _ + 1, _ => .error .malformed

/-- Reads the fields of an object up to the closing brace, after the fields read so far. Commas
between fields may be absent or repeated; a repeated name takes the last type in the first
place. -/
def readFields : (fuel levels : Nat) → Keyed (Field TypeConstraint) → List Token →
    Except Failure (Keyed (Field TypeConstraint) × List Token)
  | 0, _, _, _ => .error .malformed
  | _ + 1, _, fields, .closing .curly :: rest => .ok (fields, rest)
  | fuel + 1, levels, fields, .comma :: rest => readFields fuel levels fields rest
  | fuel + 1, levels, fields, .ident name :: .assign :: rest => do
    let (type, rest') ← read fuel levels rest
    readFields fuel levels (Keyed.insert fields name ⟨type, isOptional rest⟩) rest'
  | _ + 1, _, _, _ => .error .malformed

end

/-- An expression without the blanks at its ends and without the interpolation around it, if there
is one. -/
def unwrap (s : List Char) : List Char :=
  match trim s with
  | '$' :: '{' :: inner => if inner.getLast? = some '}' then trim inner.dropLast else trim s
  | bare => bare

/-- The type of an expression with the given levels of nesting; `none` if it is nested deeper. -/
def ofExpression? (levels : Nat) (s : List Char) : Option TypeConstraint :=
  let ts := tokens (unwrap s)
  match read (ts.length + 1) levels ts with
  | .ok (type, []) => some type
  | .ok (_, _ :: _) | .error .malformed => some any
  | .error .tooDeep => none

end InfraConfig.TypeConstraint
