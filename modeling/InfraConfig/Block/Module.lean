import InfraConfig.Block.Check
import InfraConfig.Settings.Basic
import InfraConfig.Source.ModuleSource

/-! Module calls. A declaration is first read into a request with the text of the source and a
position; once the source is classified, the call is completed. A version in the source comes
before the one that is written as an attribute. -/
namespace InfraConfig

open Decimal (Double)

/-- Where a module stands in a diagram. -/
structure Position where
  x : Double
  y : Double
deriving DecidableEq, Repr

/-- A call of a module. -/
structure ModuleCall where
  name : String
  /-- The path of the source, without a version. -/
  source : String
  resolvedVersion : Option String
  sourceKind : SourceKind
  position : Position
deriving DecidableEq, Repr

/-- What the declaration of a module asks for. -/
structure ModuleRequest where
  source : String
  position : Position
deriving DecidableEq, Repr

namespace Position

/-- The position of a module that is given none. -/
def origin : Position := ⟨.zero, .zero⟩

/-- The coordinates of a position: the members `x` and `y`, or two items. -/
def coordinates? : Value → Option (Value × Value)
  | .object members => do return (← members.lookup "x", ← members.lookup "y")
  | .list [x, y] => some (x, y)
  | _ => none

/-- The position that a value stands for. -/
def ofValue? (value : Value) : Option Position := do
  let (x, y) ← coordinates? value
  let x := (← x.number?).toDouble
  let y := (← y.number?).toDouble
  if x.isFinite && y.isFinite then some ⟨x, y⟩ else none

/-- Whether both coordinates are at most `bound` away from zero. -/
def isWithin (p : Position) (bound : Double) : Bool :=
  !Double.lt bound p.x.abs && !Double.lt bound p.y.abs

/-- The position of a module. -/
def ofDeclaration (settings : Settings) (d : Declaration) : Except AnalysisError Position :=
  match d.presentAttribute? "position" with
  | none => .ok origin
  | some value =>
    match ofValue? value with
    | none => .error (d.unsound .invalidPosition)
    | some p =>
      let bound := settings.positionBound
      if p.isWithin bound then .ok p else .error (d.unsound (.positionOutOfBounds p.x p.y bound))

/-- The value that shows a position. -/
def toValue (p : Position) : Value :=
  .object [("x", .number (.double p.x)), ("y", .number (.double p.y))]

end Position

/-- Reads the declaration of a module. -/
def ModuleRequest.ofDeclaration (settings : Settings) (d : Declaration) :
    Except AnalysisError ModuleRequest := do
  d.requireName
  let source ← d.requiredString "source"
  let position ← Position.ofDeclaration settings d
  return ⟨source, position⟩

namespace ModuleCall

/-- Completes a call with the classification of the source that its request names. -/
def complete (d : Declaration) (request : ModuleRequest) (source : ModuleSource) :
    Check (Checked ModuleCall) := do
  let version ← match source.version with
    | some version => pure (some version)
    | none => d.optionalString "version"
  Check.note s!"module '{d.name}' sourced from {source.path}" [("kind", source.kind.name)]
  return ⟨⟨d.name, source.path, version, source.kind, request.position⟩, []⟩

/-- The value that shows a call. -/
def toValue (m : ModuleCall) : Value := .object [
  ("name", .string m.name), ("source", .string m.source),
  ("resolvedVersion", .ofOption m.resolvedVersion), ("sourceKind", .string m.sourceKind.name),
  ("position", m.position.toValue)]

end ModuleCall

end InfraConfig
