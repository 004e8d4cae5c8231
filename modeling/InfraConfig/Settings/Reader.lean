import InfraConfig.Settings.Basic
import InfraConfig.Settings.Yaml

/-! Reading settings, from the text of a YAML document or from a value. Both give fields by key;
they differ in how a count, a number and a list of names are written. A key that is missing leaves
the default, a key that is not known is ignored. -/
namespace InfraConfig.Settings

open Decimal (Double readDigits?)

/-- The keys of the settings in order. -/
def keys : List String := [
  "max_dependency_depth", "max_type_depth", "module_source_cache_ttl_secs",
  "provider_source_cache_ttl_secs", "position_bound", "reserved_local_names",
  "sensitive_attribute_patterns"]

/-- How fields are written in data of type `α`. -/
structure Encoding (α : Type) where
  /-- Reads a whole number of 64 bits. -/
  count? : α → Option Nat
  number? : α → Option Double
  names? : α → Option (List String)

/-- The settings with a field read. -/
def withField? {α : Type} (n : Encoding α) (s : Settings) (key : String) (field : α) :
    Option Settings :=
  match key with
  | "max_dependency_depth" => (n.count? field).map fun x => { s with maxDependencyDepth := x }
  | "max_type_depth" => (n.count? field).map fun x => { s with maxTypeDepth := x }
  | "module_source_cache_ttl_secs" =>
    (n.count? field).map fun x => { s with moduleSourceTtlSeconds := x }
  | "provider_source_cache_ttl_secs" =>
    (n.count? field).map fun x => { s with providerSourceTtlSeconds := x }
  | "position_bound" => (n.number? field).map fun x => { s with positionBound := x }
  | "reserved_local_names" => (n.names? field).map fun x => { s with reservedLocalNames := x }
  | "sensitive_attribute_patterns" =>
    (n.names? field).map fun x => { s with sensitivePatterns := x }
  | _ => some s

/-- The settings that fields give. No known key is given twice. -/
def ofFields? {α : Type} (n : Encoding α) (fields : List (String × α)) : Option Settings :=
  if ((fields.map (·.1)).filter keys.contains).Nodup then
    fields.foldlM (fun s (key, field) => withField? n s key field) default
  else none

/-! ### Values -/

/-- Fields written as values. -/
def valueEncoding : Encoding Value where
  count? v := match v with
    | .number (.int n) => if 0 ≤ n then some n.toNat else none
    | _ => none
  number? v := v.number?.map Number.toDouble
  names? v := match v with
    | .list items => items.mapM Value.string?
    | _ => none

/-- The settings that a value holds: an object, or a list of the fields in order. -/
def ofValue? : Value → Option Settings
  | .object members => ofFields? valueEncoding members
  | .list items =>
    if items.length ≤ keys.length then ofFields? valueEncoding (keys.zip items) else none
  | _ => none

/-- The value that holds settings. -/
def toValue (s : Settings) : Value :=
  let names (xs : List String) : Value := .list (xs.map .string)
  .object (keys.zip [
    .int s.maxDependencyDepth, .int s.maxTypeDepth, .int s.moduleSourceTtlSeconds,
    .int s.providerSourceTtlSeconds, .number (.double s.positionBound),
    names s.reservedLocalNames, names s.sensitivePatterns])

/-! ### Documents -/

/-- Reads the digits of a numeral in a base, at least one and nothing else. -/
def ofDigits? (base : Nat) (digits : List Char) : Option Nat :=
  if digits = [] then none
  else digits.foldlM (fun n c => do
    let d ← Value.hexDigit? c
    if d < base then some (n * base + d) else none) 0

/-- The bases that a numeral may name. -/
def bases : List (String × Nat) := [("0x", 16), ("0o", 8), ("0b", 2)]

/-- The digits of a numeral after the name of its base. -/
def inBase? (s : List Char) (name : String) (base : Nat) : Option Nat :=
  if name.toList.isPrefixOf s then ofDigits? base (s.drop name.length) else none

/-- The whole number that a plain scalar writes. A decimal numeral has no leading zeros. -/
def wholeNumber? (text : List Char) : Option Nat :=
  let s := if text.head? = some '+' then text.drop 1 else text
  match bases.findSome? fun (name, base) => inBase? s name base with
  | some n => some n
  | none => if 1 < s.length && s.head? = some '0' then none else ofDigits? 10 s

/-- The finite number that a plain scalar writes in decimal. The digits before or after the point
may be missing, but not both. -/
def decimal? (text : List Char) : Option Double :=
  let (negative, s) := match text with
    | '-' :: t => (true, t)
    | '+' :: t => (false, t)
    | t => (false, t)
  let whole := s.takeWhile Char.isDigit
  let (fraction, rest) := match s.dropWhile Char.isDigit with
    | '.' :: t => (some (t.takeWhile Char.isDigit), t.dropWhile Char.isDigit)
    | t => (none, t)
  if whole = [] && fraction.getD [] = [] then none
  else match Decimal.readExponent? rest with
    | some (exponent, []) =>
      let d := (⟨whole, fraction, exponent⟩ : Decimal.Numeral).toDouble negative
      if d.isFinite then some d else none
    | _ => none

/-- The number that a plain scalar writes. -/
def yamlNumber? (text : List Char) : Option Double :=
  let unsigned := if text.head? = some '+' then text.drop 1 else text
  if [".inf", ".Inf", ".INF"].contains (String.ofList unsigned) then some Double.infinity
  else if ["-.inf", "-.Inf", "-.INF"].contains (String.ofList text) then some Double.infinity.neg
  else if [".nan", ".NaN", ".NAN"].contains (String.ofList text) then some Double.nan
  else decimal? text

/-- Fields written in a YAML document. Nothing at all may stand for an empty list. -/
def yamlEncoding : Encoding Yaml where
  count? node := match node with
    | .scalar true text => (wholeNumber? text).filter (· ≤ Number.maxInt.toNat)
    | _ => none
  number? node := match node with
    | .scalar true text => yamlNumber? text
    | _ => none
  names? node := match node with
    | .sequence items => items.mapM fun item => match item with
      | .scalar _ text => some (String.ofList text)
      | _ => none
    | .scalar true [] => some []
    | _ => none

/-- The fields of a document, if it is a mapping or there is nothing in it. -/
def documentFields? (text : String) : Option (List (String × Yaml)) :=
  match Yaml.read? text.toList with
  | none => none
  | some none | some (some (.scalar true [])) => some []
  | some (some (.mapping members)) => some members
  | some (some _) => none

/-- Why a document is refused. -/
inductive Refusal where
  | malformed
  | invalid (setting : InvalidSetting)
deriving DecidableEq, Repr

/-- The settings that a YAML document holds. -/
def ofYaml (text : String) : Except Refusal Settings :=
  match (documentFields? text).bind (ofFields? yamlEncoding) with
  | none => .error .malformed
  | some s => s.validate.mapError .invalid

end InfraConfig.Settings
