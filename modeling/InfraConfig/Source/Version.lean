import InfraConfig.Text.Blank
import InfraConfig.Text.CharClass
import InfraConfig.Text.Split

/-! Version constraints: comparisons with versions of two or three numbers, separated by commas,
such as `>= 1.2.0, < 2.0`. -/
namespace InfraConfig.Version

open InfraConfig.Text (allBlank isDecimalDigit isWord splitAll trimStart)

/-- Reads digits, at least one, and gives what follows them. -/
def afterDigits? (s : List Char) : Option (List Char) :=
  if s.takeWhile isDecimalDigit = [] then none else some (s.dropWhile isDecimalDigit)

/-- What follows an operator, if there is one. -/
def afterOperator : List Char → List Char
  | '>' :: '=' :: s | '<' :: '=' :: s | '~' :: '>' :: s | '=' :: s | '>' :: s | '<' :: s => s
  | s => s

/-- What follows two or three numbers with dots between them. -/
def afterNumbers? (s : List Char) : Option (List Char) := do
  match ← afterDigits? s with
  | '.' :: s =>
    match ← afterDigits? s with
    | '.' :: s => afterDigits? s
    | s => some s
  | _ => none

/-- What follows a hyphen and a word, if there is a hyphen. -/
def afterLabel? : List Char → Option (List Char)
  | '-' :: s => if s.takeWhile isWord = [] then none else some (s.dropWhile isWord)
  | s => some s

/-- One comparison with a version, blanks around its parts aside. -/
def isComparison (s : List Char) : Bool :=
  let rest := do afterLabel? (← afterNumbers? (trimStart (afterOperator (trimStart s))))
  rest.any allBlank

/-- A list of comparisons, not blank. -/
def isConstraint (s : List Char) : Bool := !allBlank s && (splitAll ',' s).all isComparison

end InfraConfig.Version
