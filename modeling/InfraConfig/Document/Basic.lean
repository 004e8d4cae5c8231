import InfraConfig.Value.Basic

/-! Configuration documents: bodies of attributes and blocks as they are written. Of an expression
the literals, templates, lists and objects are read; any other expression, such as a traversal, a
call or an operation, is kept as its source text. -/
namespace InfraConfig.Document

/-- A part of a template. -/
inductive Part where
  /-- Text as it stands for, its escapes read. -/
  | literal (text : List Char)
  /-- An interpolation, by the source of its expression. -/
  | interpolation (source : List Char)
  /-- A directive with all that it governs, by its source. -/
  | directive (source : List Char)
deriving DecidableEq, Repr

/-- An expression. -/
inductive Expr where
  | null
  | bool (b : Bool)
  | number (n : Number)
  /-- A quoted text without interpolations and directives. -/
  | quoted (text : List Char)
  /-- Any other quoted text, and every text that is written in lines of its own. -/
  | template (parts : List Part)
  | list (items : List Expr)
  /-- An object; a key that is no name and no quoted text is given by its source. -/
  | object (members : List (String × Expr))
  | parenthesized (inner : Expr)
  /-- An expression whose value is not known here, by its source. -/
  | symbolic (source : List Char)
deriving Repr

/-- An attribute of a body. -/
structure Attribute where
  key : String
  value : Expr
  /-- The source of the value. -/
  source : List Char
deriving Repr

/-- A label of a block. -/
inductive Label where
  | quoted (text : String)
  | bare (name : String)
deriving DecidableEq, Repr

/-- A block: its identifier, its labels and its body. -/
structure Block where
  ident : String
  labels : List Label
  attributes : List Attribute
  blocks : List Block
deriving Repr

/-- The body of a document. -/
structure Body where
  attributes : List Attribute
  blocks : List Block
deriving Repr

end InfraConfig.Document
