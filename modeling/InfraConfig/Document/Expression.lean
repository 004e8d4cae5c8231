import InfraConfig.Document.Template
import InfraConfig.Document.Token

/-! Reading expressions by recursive descent. A term is followed by accesses and operations, which
make the expression symbolic; an operation that cannot be read is no part of the expression. The
readers are bounded by a number of steps, and `readExpression?` gives them as many as the length of
the text can need. -/
namespace InfraConfig.Document

open InfraConfig.Text (isIdentStart)

/-- The part of a text in front of what is left of it. -/
def taken (s rest : List Char) : List Char := s.take (s.length - rest.length)

/-- How a template is delimited: by quotes, or by lines of which the last holds a marker. -/
inductive Delimiter where
  | quotes
  | lines (marker : List Char)
deriving DecidableEq, Repr

/-- What follows a marker that stands alone on its line. -/
def afterMarker? (marker s : List Char) : Option (List Char) :=
  let line := s.dropWhile fun c => c = ' ' || c = '\t'
  if marker.isPrefixOf line then
    let rest := line.drop marker.length
    if (afterLineEnd? rest).isSome then some rest else none
  else none

/-- Whether a template ends here. -/
def atEnd (delimiter : Delimiter) (lineStart : Bool) (s : List Char) : Bool :=
  match delimiter with
  | .quotes => s.head? = some '"'
  | .lines marker => lineStart && (afterMarker? marker s).isSome

/-- What follows the mark that strips blanks, if it is there. -/
def skipStrip : List Char → List Char
  | '~' :: s => s
  | s => s

/-- What follows the brace that closes an interpolation or a directive. -/
def afterBrace? (s : List Char) : Option (List Char) :=
  after? "\x7d" (skipStrip (skip .manyLines s))

/-- The inside of a directive, after its opening. -/
def insideDirective? (s : List Char) : Option (List Char) :=
  (after? "%\x7b" s).map fun s => skip .manyLines (skipStrip s)

/-- What follows a directive that is nothing but a keyword. -/
def afterBranch? (keyword : String) (s : List Char) : Option (List Char) := do
  let s ← insideDirective? s
  let s ← afterKeyword? keyword s
  afterBrace? s

/-- Whether the inside of a directive ends what an earlier directive governs. -/
def isBranch (inside : List Char) : Bool :=
  ["else", "endif", "endfor"].any fun keyword => (afterKeyword? keyword inside).isSome

/-- The operators that stand between two operands. An operator comes before those it starts
with. -/
def binaryOperators : List String :=
  ["==", "!=", "<=", ">=", "&&", "||", "<", ">", "+", "-", "*", "/", "%"]

/-- What follows the name, the position or the star of an access after its point. -/
def afterAccess? : List Char → Option (List Char)
  | '*' :: s => some s
  | s =>
    match readIdent? s with
    | some (_, rest) => some rest
    | none => (readPosition? s).map (·.2)

/-- What follows the further parts of a qualified name; the first argument bounds their number. -/
def afterQualifiers : Nat → List Char → List Char
  | bound + 1, ':' :: ':' :: s =>
    match readIdent? s with
    | some (_, rest) => afterQualifiers bound rest
    | none => ':' :: ':' :: s
  | _, s => s

/-- The expression that a bare name is. -/
def ofIdent (ident : List Char) : Expr :=
  if ident = "null".toList then .null
  else if ident = "true".toList then .bool true
  else if ident = "false".toList then .bool false
  else .symbolic ident

mutual

/-- Reads an expression. -/
def readExpr? : Nat → Extent → List Char → Option (Expr × List Char)
  | 0, _, _ => none
  | fuel + 1, extent, s => do
    let (term, rest) ← readTerm? fuel s
    let stop := afterOperations fuel extent rest
    return if stop.length = rest.length then (term, rest) else (.symbolic (taken s stop), stop)

/-- What is left after the accesses and operations that go on with an expression. -/
def afterOperations : Nat → Extent → List Char → List Char
  | 0, _, s => s
  | fuel + 1, extent, s =>
    match afterOperation? fuel extent (skip extent s) with
    | some rest => afterOperations fuel extent rest
    | none => s

/-- What follows one access or operation. -/
def afterOperation? : Nat → Extent → List Char → Option (List Char)
  | 0, _, _ => none
  | _ + 1, extent, '.' :: s => afterAccess? (skip extent s)
  | fuel + 1, _, '[' :: s =>
    match skip .manyLines s with
    | '*' :: s => after? "]" (skip .manyLines s)
    | s => do
      let (_, s) ← readExpr? fuel .manyLines s
      after? "]" (skip .manyLines s)
  | fuel + 1, extent, '?' :: s => do
    let (_, s) ← readExpr? fuel extent (skip extent s)
    let s ← after? ":" (skip extent s)
    let (_, s) ← readExpr? fuel extent (skip extent s)
    return s
  | fuel + 1, extent, s => do
    let s ← binaryOperators.findSome? (after? · s)
    let (_, s) ← readTerm? fuel (skip extent s)
    return s

/-- Reads a term: a literal, a template, a list, an object, a name, a call, an expression in
parentheses, or a term after a sign. -/
def readTerm? : Nat → List Char → Option (Expr × List Char)
  | 0, _ => none
  | fuel + 1, '"' :: s => do
    let (parts, rest) ← readParts? fuel .quotes false s
    let rest ← after? "\"" rest
    match literalText? parts with
    | some text => return (.quoted text, rest)
    | none => return (.template parts, rest)
  | fuel + 1, '[' :: s => do
    match afterKeyword? "for" (skip .manyLines s) with
    | some head =>
      let rest ← afterListLoop? fuel head
      return (.symbolic (taken ('[' :: s) rest), rest)
    | none =>
      let (items, rest) ← readItems? fuel s
      return (.list items, rest)
  | fuel + 1, '{' :: s => do
    match afterKeyword? "for" (skip .manyLines s) with
    | some head =>
      let rest ← afterObjectLoop? fuel head
      return (.symbolic (taken ('{' :: s) rest), rest)
    | none =>
      let (members, rest) ← readMembers? fuel s
      return (.object members, rest)
  | fuel + 1, '(' :: s => do
    let (inner, rest) ← readExpr? fuel .manyLines (skip .manyLines s)
    let rest ← after? ")" (skip .manyLines rest)
    return (.parenthesized inner, rest)
  | fuel + 1, '-' :: s => do
    match readNumber? (skip .oneLine s) with
    | some (n, rest) => return (.number (negated n), rest)
    | none =>
      let (_, rest) ← readTerm? fuel (skip .oneLine s)
      return (.symbolic (taken ('-' :: s) rest), rest)
  | fuel + 1, '!' :: s => do
    let (_, rest) ← readTerm? fuel (skip .oneLine s)
    return (.symbolic (taken ('!' :: s) rest), rest)
  | fuel + 1, '<' :: '<' :: s => do
    let (dedented, s) := match s with
      | '-' :: t => (true, t)
      | t => (false, t)
    let (marker, s) ← readIdent? s
    let s ← afterLineEnd? s
    let (parts, rest) ← readParts? fuel (.lines marker) true s
    let rest ← afterMarker? marker rest
    return (.template (if dedented then dedent parts else parts), rest)
  | fuel + 1, s =>
    match readIdent? s with
    | some (ident, rest) =>
      match afterQualifiers fuel rest with
      | '(' :: arguments => do
        let rest ← afterArguments? fuel arguments
        return (.symbolic (taken s rest), rest)
      | _ => some (ofIdent ident, rest)
    | none => do
      let (n, rest) ← readNumber? s
      return (.number n, rest)

/-- Reads the items of a list and its closing bracket. -/
def readItems? : Nat → List Char → Option (List Expr × List Char)
  | 0, _ => none
  | fuel + 1, s =>
    match skip .manyLines s with
    | ']' :: rest => some ([], rest)
    | s => do
      let (item, s) ← readExpr? fuel .manyLines s
      match skip .manyLines s with
      | ',' :: s =>
        let (items, s) ← readItems? fuel s
        return (item :: items, s)
      | ']' :: s => return ([item], s)
      | _ => none

/-- Reads the members of an object and its closing brace. Members are separated by commas or by
line ends. -/
def readMembers? : Nat → List Char → Option (List (String × Expr) × List Char)
  | 0, _ => none
  | fuel + 1, s =>
    match skip .manyLines s with
    | '}' :: rest => some ([], rest)
    | s => do
      let (key, rest) ← readExpr? fuel .oneLine s
      let name := match key with
        | .quoted text => text
        | _ => taken s rest
      let rest := skip .oneLine rest
      let rest ← (after? "=" rest).orElse fun _ => after? ":" rest
      let (value, rest) ← readExpr? fuel .oneLine (skip .oneLine rest)
      let rest ← match skip .oneLine rest with
        | ',' :: rest => some rest
        | '}' :: rest => some ('}' :: rest)
        | rest => afterLineEnd? (skipLineComment rest)
      let (members, rest) ← readMembers? fuel rest
      return ((String.ofList name, value) :: members, rest)

/-- What follows the arguments of a call and its closing parenthesis. The last argument may be
spread out with `...`. -/
def afterArguments? : Nat → List Char → Option (List Char)
  | 0, _ => none
  | fuel + 1, s =>
    match skip .manyLines s with
    | ')' :: rest => some rest
    | s => do
      let (_, s) ← readExpr? fuel .manyLines s
      match skip .manyLines s with
      | ',' :: s => afterArguments? fuel s
      | ')' :: s => return s
      | s =>
        let s ← after? "..." s
        after? ")" (skip .manyLines s)

/-- What follows the names of a loop and the collection that it goes over. -/
def afterLoopHead? : Nat → List Char → Option (List Char)
  | 0, _ => none
  | fuel + 1, s => do
    let (_, s) ← readIdent? (skip .manyLines s)
    let s ← match skip .manyLines s with
      | ',' :: s => (readIdent? (skip .manyLines s)).map fun (_, s) => skip .manyLines s
      | s => some s
    let s ← afterKeyword? "in" s
    let (_, s) ← readExpr? fuel .manyLines (skip .manyLines s)
    return skip .manyLines s

/-- What follows the condition of a loop, if it has one. -/
def afterLoopCondition? : Nat → List Char → Option (List Char)
  | 0, _ => none
  | fuel + 1, s =>
    match afterKeyword? "if" (skip .manyLines s) with
    | some s => do
      let (_, s) ← readExpr? fuel .manyLines (skip .manyLines s)
      return skip .manyLines s
    | none => some (skip .manyLines s)

/-- What follows a list made by a loop. -/
def afterListLoop? : Nat → List Char → Option (List Char)
  | 0, _ => none
  | fuel + 1, s => do
    let s ← afterLoopHead? fuel s
    let s ← after? ":" s
    let (_, s) ← readExpr? fuel .manyLines (skip .manyLines s)
    let s ← afterLoopCondition? fuel s
    after? "]" s

/-- What follows an object made by a loop. Values under one key may be gathered with `...`. -/
def afterObjectLoop? : Nat → List Char → Option (List Char)
  | 0, _ => none
  | fuel + 1, s => do
    let s ← afterLoopHead? fuel s
    let s ← after? ":" s
    let (_, s) ← readExpr? fuel .manyLines (skip .manyLines s)
    let s ← after? "=>" (skip .manyLines s)
    let (_, s) ← readExpr? fuel .manyLines (skip .manyLines s)
    let s := skip .manyLines s
    let s ← afterLoopCondition? fuel ((after? "..." s).getD s)
    after? "\x7d" s

/-- Reads the parts of a template up to its end, or up to a directive that ends what an earlier one
governs. -/
def readParts? : Nat → Delimiter → Bool → List Char → Option (List Part × List Char)
  | 0, _, _, _ => none
  | fuel + 1, delimiter, lineStart, s =>
    if atEnd delimiter lineStart s then some ([], s)
    else match s with
      | [] => none
      | '$' :: '$' :: '{' :: s => do
        let (parts, s) ← readParts? fuel delimiter false s
        return (prepend ['$', '{'] parts, s)
      | '%' :: '%' :: '{' :: s => do
        let (parts, s) ← readParts? fuel delimiter false s
        return (prepend ['%', '{'] parts, s)
      | '$' :: '{' :: s => do
        let inside := skip .manyLines (skipStrip s)
        let (_, rest) ← readExpr? fuel .manyLines inside
        let after ← afterBrace? rest
        let (parts, after) ← readParts? fuel delimiter false after
        return (.interpolation (taken inside rest) :: parts, after)
      | '%' :: '{' :: inside => do
        let inside := skip .manyLines (skipStrip inside)
        if isBranch inside then return ([], s)
        else
          let rest ← afterDirective? fuel delimiter inside
          let (parts, after) ← readParts? fuel delimiter false rest
          return (.directive (taken s rest) :: parts, after)
      | c :: s => do
        let (c, s) ← if c = '\\' && delimiter = .quotes then readEscape? s else some (c, s)
        let (parts, s) ← readParts? fuel delimiter (c = '\n') s
        return (prepend [c] parts, s)

/-- What follows a directive and all that it governs, from its keyword on. -/
def afterDirective? : Nat → Delimiter → List Char → Option (List Char)
  | 0, _, _ => none
  | fuel + 1, delimiter, s =>
    match afterKeyword? "if" s with
    | some s => do
      let (_, s) ← readExpr? fuel .manyLines (skip .manyLines s)
      let s ← afterBrace? s
      let (_, s) ← readParts? fuel delimiter false s
      match afterBranch? "else" s with
      | some s =>
        let (_, s) ← readParts? fuel delimiter false s
        afterBranch? "endif" s
      | none => afterBranch? "endif" s
    | none => do
      let s ← afterKeyword? "for" s
      let s ← afterLoopHead? fuel s
      let s ← afterBrace? s
      let (_, s) ← readParts? fuel delimiter false s
      afterBranch? "endfor" s

end

/-- Reads an expression from the front of a text. -/
def readExpression? (extent : Extent) (s : List Char) : Option (Expr × List Char) :=
  readExpr? (4 * s.length + 8) extent s

/-- Whether a text is exactly one expression, without comments at its ends. -/
def isExpression (s : List Char) : Bool :=
  match readExpression? .oneLine s with
  | some (_, rest) => rest = []
  | none => false

end InfraConfig.Document
