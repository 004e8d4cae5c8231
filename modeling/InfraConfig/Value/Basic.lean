import InfraConfig.Decimal.Binary64
import InfraConfig.Keyed

/-! The value tree of configuration data: null, truth values, numbers, texts, lists and objects.
Objects keep the order of their members. Whole numbers are exact and told apart from binary
floating point numbers, which print differently. -/
namespace InfraConfig

open Decimal (Double)

/-- A number: exact if it was written whole and is in range, else the nearest double. -/
inductive Number where
  | int (n : Int)
  | double (d : Double)
deriving DecidableEq, Repr

namespace Number

/-- The least whole number held exactly. -/
def minInt : Int := -0x8000000000000000

/-- The greatest whole number held exactly. -/
def maxInt : Int := 0xFFFFFFFFFFFFFFFF

/-- The number as a double, rounded to the nearest if it is not one. -/
def toDouble : Number → Double
  | int n => Double.ofInt n
  | double d => d

end Number

/-- A tree of configuration data. -/
inductive Value where
  | null
  | bool (b : Bool)
  | number (n : Number)
  | string (s : String)
  | list (items : List Value)
  | object (members : List (String × Value))
deriving Repr, Inhabited

namespace Value

mutual

def decEq : (a b : Value) → Decidable (a = b)
  | .null, .null => isTrue rfl
  | .bool a, .bool b =>
    if h : a = b then isTrue (h ▸ rfl) else isFalse fun e => h (Value.bool.inj e)
  | .number a, .number b =>
    if h : a = b then isTrue (h ▸ rfl) else isFalse fun e => h (Value.number.inj e)
  | .string a, .string b =>
    if h : a = b then isTrue (h ▸ rfl) else isFalse fun e => h (Value.string.inj e)
  | .list a, .list b =>
    match decEqItems a b with
    | isTrue h => isTrue (h ▸ rfl)
    | isFalse h => isFalse fun e => h (Value.list.inj e)
  | .object a, .object b =>
    match decEqMembers a b with
    | isTrue h => isTrue (h ▸ rfl)
    | isFalse h => isFalse fun e => h (Value.object.inj e)
  | .null, .bool _ | .null, .number _ | .null, .string _ | .null, .list _ | .null, .object _
  | .bool _, .null | .bool _, .number _ | .bool _, .string _ | .bool _, .list _
  | .bool _, .object _ | .number _, .null | .number _, .bool _ | .number _, .string _
  | .number _, .list _ | .number _, .object _ | .string _, .null | .string _, .bool _
  | .string _, .number _ | .string _, .list _ | .string _, .object _ | .list _, .null
  | .list _, .bool _ | .list _, .number _ | .list _, .string _ | .list _, .object _
  | .object _, .null | .object _, .bool _ | .object _, .number _ | .object _, .string _
  | .object _, .list _ => isFalse nofun

def decEqItems : (a b : List Value) → Decidable (a = b)
  | [], [] => isTrue rfl
  | [], _ :: _ | _ :: _, [] => isFalse nofun
  | x :: a, y :: b =>
    match decEq x y, decEqItems a b with
    | isTrue h, isTrue h' => isTrue (h ▸ h' ▸ rfl)
    | isFalse h, _ => isFalse fun e => h (List.cons.inj e).1
    | _, isFalse h => isFalse fun e => h (List.cons.inj e).2

def decEqMembers : (a b : List (String × Value)) → Decidable (a = b)
  | [], [] => isTrue rfl
  | [], _ :: _ | _ :: _, [] => isFalse nofun
  | (k, x) :: a, (l, y) :: b =>
    if hk : k = l then
      match decEq x y, decEqMembers a b with
      | isTrue h, isTrue h' => isTrue (hk ▸ h ▸ h' ▸ rfl)
      | isFalse h, _ => isFalse fun e => h (Prod.mk.inj (List.cons.inj e).1).2
      | _, isFalse h => isFalse fun e => h (List.cons.inj e).2
    else isFalse fun e => hk (Prod.mk.inj (List.cons.inj e).1).1

end

instance : DecidableEq Value := decEq

/-- The number of a whole number. -/
def int (n : Int) : Value := .number (.int n)

/-- The object with the given members; of a repeated key the last value stays, in the first
place. -/
def ofMembers (members : List (String × Value)) : Value := .object (Keyed.ofList members)

/-- A text, or null where there is none. -/
def ofOption (s : Option String) : Value := (s.map string).getD null

/-- The member of an object. -/
def member? : Value → String → Option Value
  | .object members, key => members.lookup key
  | _, _ => none

def string? : Value → Option String
  | .string s => some s
  | _ => none

def bool? : Value → Option Bool
  | .bool b => some b
  | _ => none

def number? : Value → Option Number
  | .number n => some n
  | _ => none

def isNull : Value → Bool
  | .null => true
  | _ => false

/-- A list or an object. -/
def isComposite : Value → Bool
  | .list _ | .object _ => true
  | _ => false

/-- The kind of a value, named like the type that accepts it. -/
def kind : Value → String
  | .null => "null"
  | .bool _ => "bool"
  | .number _ => "number"
  | .string _ => "string"
  | .list _ => "list"
  | .object _ => "object"

end Value

end InfraConfig
