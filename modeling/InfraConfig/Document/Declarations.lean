import InfraConfig.Analysis.Diagnostic
import InfraConfig.Declaration
import InfraConfig.Document.Reader

/-! What a document declares. Literals stand for themselves, templates for their text with the
interpolations put back, and any other expression for one interpolation around its source. The
blocks within a body are gathered under their identifiers, after the attributes. -/
namespace InfraConfig.Document

namespace Part

/-- The text of a part. -/
def text : Part → List Char
  | literal text => text
  | interpolation source => '$' :: '{' :: source ++ ['}']
  | directive source => source

end Part

/-- The text of a template. -/
def templateText (parts : List Part) : List Char := parts.flatMap Part.text

namespace Expr

mutual

/-- The value that an expression declares. -/
def value : Expr → Value
  | null => .null
  | bool b => .bool b
  | number n => .number n
  | quoted text => .string (String.ofList text)
  | template parts => .string (String.ofList (templateText parts))
  | list items => .list (values items)
  | object members => Value.ofMembers (memberValues members)
  | parenthesized inner => inner.value
  | symbolic source => .string (String.ofList (Part.interpolation source).text)

/-- The values of items. -/
def values : List Expr → List Value
  | [] => []
  | item :: rest => item.value :: values rest

/-- The values of members. -/
def memberValues : List (String × Expr) → List (String × Value)
  | [] => []
  | (key, member) :: rest => (key, member.value) :: memberValues rest

end

end Expr

/-! ### Attributes -/

/-- The attributes of a body; of a repeated key the last value stays. -/
def attributeValues (attributes : List Attribute) : Keyed Value :=
  Keyed.ofList (attributes.map fun entry => (entry.key, entry.value.value))

/-- What is written under an identifier, with a block added to it. -/
def withBlock (present : Option Value) (block : Value) : Value :=
  match present with
  | none => .list [block]
  | some (.list items) => .list (items ++ [block])
  | some other => .list [other, block]

mutual

/-- The attributes that the body of a block declares. -/
def Block.members : Block → Keyed Value
  | ⟨_, _, attributes, blocks⟩ => gather (attributeValues attributes) blocks

/-- Attributes with blocks gathered under their identifiers. -/
def gather (members : Keyed Value) : List Block → Keyed Value
  | [] => members
  | block :: rest =>
    let value := withBlock (members.lookup block.ident) (.object block.members)
    gather (Keyed.insert members block.ident value) rest

end

/-! ### Declarations -/

/-- Why a document declares nothing. -/
inductive Fault where
  /-- The text of the document does not follow the grammar. -/
  | malformed (text : String)
  | missingLabel (block label : String)
  | labelNotQuoted (block label : String)
  | repeatedLocal (name : String)
deriving DecidableEq, Repr

namespace Fault

/-- What a parser says of a text that it refuses. It may have nothing to say. -/
abbrev Explanation := String → Option String

/-- The explanation of a parser that has nothing to say of any text. -/
def unexplained : Explanation := fun _ => none

/-- The wording of a fault. -/
def message (fault : Fault) (explain : Explanation := unexplained) : String :=
  match fault with
  | malformed text =>
    match explain text with
    | none => "parsing error"
    | some reason => s!"parsing error: {reason}"
  | missingLabel block label => s!"{block} block is missing its {label} label"
  | labelNotQuoted block label => s!"{block} block {label} label must be a quoted string"
  | repeatedLocal name => s!"local value '{name}' is declared more than once"

/-- The finding that reports a fault. -/
def diagnostic (fault : Fault) (explain : Explanation := unexplained) : Diagnostic :=
  .ofMessage .error (fault.message explain)

end Fault

namespace Block

/-- The label of a block at a position, which has to be quoted. -/
def label (block : Block) (position : Nat) (name : String) : Except Fault String :=
  match block.labels[position]? with
  | none => .error (.missingLabel block.ident name)
  | some (.bare _) => .error (.labelNotQuoted block.ident name)
  | some (.quoted text) => .ok text

/-- The type constraint that an attribute writes: its source, unless it is a quoted text. -/
def typeText (entry : Attribute) : String :=
  match entry.value with
  | .quoted text => String.ofList text
  | _ => String.ofList entry.source

/-- The declaration of a block that declares one. -/
def declaration (block : Block) (kind : BlockKind) : Except Fault Declaration := do
  match kind with
  | .dataSource =>
    let type ← block.label 0 "type"
    let name ← block.label 1 "name"
    return (⟨kind, name, block.members⟩ : Declaration).withAttribute "type" (.string type)
  | .variable =>
    let name ← block.label 0 "name"
    let declaration : Declaration := ⟨kind, name, block.members⟩
    match block.attributes.find? (·.key == "type") with
    | some entry => return declaration.withAttribute "type" (.string (typeText entry))
    | none => return declaration
  | _ => return ⟨kind, ← block.label 0 "name", block.members⟩

/-- The local values of a block: one for every attribute. -/
def localDeclarations (block : Block) : List Declaration :=
  block.attributes.map fun entry => .ofLocal entry.key entry.value.value

/-- The declarations of a block. A block of no known kind declares nothing. -/
def declarations (block : Block) : Except Fault (List Declaration) :=
  match BlockKind.ofIdent? block.ident with
  | none => .ok []
  | some .localValue => .ok block.localDeclarations
  | some kind => (block.declaration kind).map ([·])

end Block

/-- The blocks of a document at the top. -/
def blocks (text : String) : Except Fault (List Block) :=
  match read? text with
  | some body => .ok body.blocks
  | none => .error (.malformed text)

/-- The declarations of a document in order. -/
def declarations (text : String) : Except Fault (List Declaration) := do
  return (← (← blocks text).mapM Block.declarations).flatten

/-- Local values added to those known; none is declared twice. -/
def addLocals (known : Keyed Value) : List Attribute → Except Fault (Keyed Value)
  | [] => .ok known
  | entry :: rest =>
    if (known.lookup entry.key).isSome then .error (.repeatedLocal entry.key)
    else addLocals (Keyed.insert known entry.key entry.value.value) rest

/-- The local values of a document in order. -/
def localValues (text : String) : Except Fault (Keyed Value) := do
  let locals := (← blocks text).filter (·.ident == BlockKind.localValue.ident)
  addLocals [] (locals.flatMap (·.attributes))

end InfraConfig.Document
