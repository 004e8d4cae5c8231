import InfraConfig.Value.Basic

/-! Declarations: the named blocks of a configuration unit. A declaration has a kind, a name and
attributes whose values are not checked yet. A kind is known by its own name and by the identifier
that opens its blocks; the two differ for local values, which are written several to a block. -/
namespace InfraConfig

/-- The kinds of blocks that are checked. -/
inductive BlockKind where
  | localValue
  | variable
  | output
  | provider
  | moduleCall
  | dataSource
deriving DecidableEq, Repr

namespace BlockKind

/-- All kinds. -/
def all : List BlockKind := [.localValue, .variable, .output, .provider, .moduleCall, .dataSource]

/-- The name of a kind. -/
def name : BlockKind → String
  | .localValue => "local"
  | .variable => "variable"
  | .output => "output"
  | .provider => "provider"
  | .moduleCall => "module"
  | .dataSource => "data"

/-- The identifier that opens the blocks of a kind. -/
def ident : BlockKind → String
  | .localValue => "locals"
  | kind => kind.name

/-- The kind with a name. -/
def ofName? (name : String) : Option BlockKind := all.find? (·.name == name)

/-- The kind whose blocks open with an identifier. -/
def ofIdent? (ident : String) : Option BlockKind := all.find? (·.ident == ident)

theorem ofName?_name (kind : BlockKind) : ofName? kind.name = some kind := by
  cases kind <;> decide

theorem ofIdent?_ident (kind : BlockKind) : ofIdent? kind.ident = some kind := by
  cases kind <;> decide

end BlockKind

/-- A named block with attributes that are not checked yet. -/
structure Declaration where
  kind : BlockKind
  name : String
  attributes : Keyed Value
deriving DecidableEq, Repr

namespace Declaration

/-- The attribute with a key. -/
def attribute? (d : Declaration) (key : String) : Option Value := d.attributes.lookup key

/-- The attribute with a key unless it is null. -/
def presentAttribute? (d : Declaration) (key : String) : Option Value :=
  (d.attribute? key).filter (!·.isNull)

/-- The text of an attribute that is a text. -/
def string? (d : Declaration) (key : String) : Option String :=
  (d.attribute? key).bind Value.string?

/-- A null attribute has no text, so the text is that of the attribute if it is present. -/
theorem string?_eq (d : Declaration) (key : String) :
    d.string? key = (d.presentAttribute? key).bind Value.string? := by
  rw [string?, presentAttribute?]
  cases d.attribute? key with
  | none => rfl
  | some value => cases value <;> rfl

/-- The truth value of an attribute that is one. -/
def bool? (d : Declaration) (key : String) : Option Bool := (d.attribute? key).bind Value.bool?

/-- The declaration with an attribute written. -/
def withAttribute (d : Declaration) (key : String) (value : Value) : Declaration :=
  { d with attributes := Keyed.insert d.attributes key value }

/-- The declaration of a local value. -/
def ofLocal (name : String) (expression : Value) : Declaration :=
  ⟨.localValue, name, [("value", expression)]⟩

/-- The declaration that a value holds: an object, or a list of the fields in order. Attributes may
be left out. -/
def ofValue? : Value → Option Declaration
  | .object members => do
    let kind ← BlockKind.ofName? (← (← members.lookup "kind").string?)
    let name ← (← members.lookup "name").string?
    return ⟨kind, name, ← attributes? (members.lookup "rawAttributes")⟩
  | .list (.string kind :: .string name :: rest) => do
    let kind ← BlockKind.ofName? kind
    match rest with
    | [] => return ⟨kind, name, []⟩
    | [attributes] => return ⟨kind, name, ← attributes? (some attributes)⟩
    | _ => none
  | _ => none
where
  /-- The attributes that a value holds. -/
  attributes? : Option Value → Option (Keyed Value)
    | none => some []
    | some (.object members) => some members
    | some _ => none

/-- The value that holds a declaration. -/
def toValue (d : Declaration) : Value := .object [
  ("kind", .string d.kind.name), ("name", .string d.name), ("rawAttributes", .object d.attributes)]

/-- A declaration is read back as it was. -/
theorem ofValue?_toValue (d : Declaration) : ofValue? d.toValue = some d := by
  obtain ⟨kind, name, attributes⟩ := d
  simp [toValue, ofValue?, ofValue?.attributes?, List.lookup_cons, Value.string?,
    BlockKind.ofName?_name]

end Declaration

end InfraConfig
