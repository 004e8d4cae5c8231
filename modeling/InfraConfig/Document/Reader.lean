import InfraConfig.Document.Expression

/-! Reading bodies. A body is a sequence of attributes and blocks, each ended by the end of a line
or of the text; no attribute is written twice. The body of a block stands on lines of its own, or
it is on the line of the block's heading and holds at most one attribute. -/
namespace InfraConfig.Document

/-- Reads the value of an attribute after its equals sign. -/
def readAttribute? (key : List Char) (s : List Char) : Option (Attribute × List Char) := do
  let s := skip .oneLine s
  let (value, rest) ← readExpression? .oneLine s
  return (⟨String.ofList key, value, taken s rest⟩, rest)

/-- Reads a label of a block. -/
def readLabel? (s : List Char) : Option (Label × List Char) :=
  match readIdent? s with
  | some (name, rest) => some (.bare (String.ofList name), rest)
  | none =>
    if s.head? = some '"' then
      match readExpression? .oneLine s with
      | some (.quoted text, rest) => some (.quoted (String.ofList text), rest)
      | _ => none
    else none

/-- Reads the labels of a block; the first argument bounds their number. -/
def readLabels : Nat → List Char → List Label × List Char
  | 0, s => ([], s)
  | bound + 1, s =>
    match readLabel? (skip .oneLine s) with
    | some (label, rest) =>
      let (labels, rest) := readLabels bound rest
      (label :: labels, rest)
    | none => ([], s)

/-- Reads the body of a block that is on the line of its heading, after the opening brace. -/
def readShortBody? (s : List Char) : Option (Body × List Char) :=
  let s := skip .oneLine s
  match readIdent? s with
  | none => do
    let rest ← after? "\x7d" s
    return (⟨[], []⟩, rest)
  | some (key, rest) => do
    let rest ← after? "=" (skip .oneLine rest)
    let (entry, rest) ← readAttribute? key rest
    let rest ← after? "\x7d" (skip .oneLine rest)
    return (⟨[entry], []⟩, rest)

mutual

/-- Reads the attributes and blocks of a body in which the attributes `known` are already written.
The first argument bounds their number and nesting. -/
def readBody? : Nat → List (List Char) → List Char → Option (Body × List Char)
  | 0, _, _ => none
  | fuel + 1, known, s =>
    let s := skip .manyLines s
    match readIdent? s with
    | none => some (⟨[], []⟩, s)
    | some (ident, rest) => do
      match skip .oneLine rest with
      | '=' :: rest =>
        if known.contains ident then none
        else
          let (entry, rest) ← readAttribute? ident rest
          let rest ← endLine? rest
          let (body, rest) ← readBody? fuel (ident :: known) rest
          return ({ body with attributes := entry :: body.attributes }, rest)
      | rest =>
        let (labels, rest) := readLabels rest.length rest
        let rest ← after? "\x7b" (skip .oneLine rest)
        let (inner, rest) ← readBlockBody? fuel rest
        let rest ← endLine? rest
        let block := ⟨String.ofList ident, labels, inner.attributes, inner.blocks⟩
        let (body, rest) ← readBody? fuel known rest
        return ({ body with blocks := block :: body.blocks }, rest)

/-- Reads the body of a block after the opening brace, and the closing brace. -/
def readBlockBody? : Nat → List Char → Option (Body × List Char)
  | 0, _ => none
  | fuel + 1, s =>
    match endLine? s with
    | some rest => do
      let (body, rest) ← readBody? fuel [] rest
      let rest ← after? "\x7d" rest
      return (body, rest)
    | none => readShortBody? s

end

/-- Reads a document. -/
def read? (text : String) : Option Body :=
  let s := text.toList
  match readBody? (2 * s.length + 2) [] s with
  | some (body, []) => some body
  | _ => none

end InfraConfig.Document
