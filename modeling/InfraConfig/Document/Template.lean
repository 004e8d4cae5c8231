import InfraConfig.Document.Basic
import InfraConfig.Text.Blank
import InfraConfig.Text.Split

/-! Parts of templates. Literal text is gathered into as few parts as possible. A template written
in lines of its own may stand with a margin: the least number of blanks in front of a line, looking
at literal text only, which `dedent` takes from every line. -/
namespace InfraConfig.Document

open InfraConfig.Text (isBlank splitAll)

/-- Puts literal text in front of parts. -/
def prepend (text : List Char) : List Part → List Part
  | .literal t :: parts => .literal (text ++ t) :: parts
  | parts => .literal text :: parts

/-- The text of parts that are nothing but literal text. -/
def literalText? : List Part → Option (List Char)
  | [] => some []
  | [.literal text] => some text
  | _ => none

/-- A line without the carriage return at its end. -/
def withoutReturn (line : List Char) : List Char :=
  if line.getLast? = some '\r' then line.dropLast else line

/-- The lines of a text without their ends. The end of a line at the end of the text starts no
further line. -/
def linesOf (text : List Char) : List (List Char) :=
  match (splitAll '\n' text).reverse with
  | [] => []
  | last :: before =>
    (before.map withoutReturn).reverse ++ if last = [] then [] else [last]

/-- Whether a text ends with the end of a line. -/
def endsLine (text : List Char) : Bool := text.getLast? = some '\n'

/-- The number of blanks in front of each line that is not empty. The first line is left out if it
goes on with a line that is begun. -/
def indents (begun : Bool) (text : List Char) : List Nat :=
  (((linesOf text).drop (if begun then 1 else 0)).filter (· ≠ [])).map
    fun line => (line.takeWhile isBlank).length

/-- The numbers of blanks in front of the lines of a template. -/
def indentsOfParts (begun : Bool) : List Part → List Nat
  | [] => []
  | .literal text :: parts => indents begun text ++ indentsOfParts (!endsLine text) parts
  | _ :: parts => indentsOfParts true parts

/-- The text without the first `margin` characters of its lines. -/
def dedentText (margin : Nat) (begun : Bool) (text : List Char) : List Char :=
  let lines := match begun, linesOf text with
    | true, first :: rest => first :: rest.map (·.drop margin)
    | _, lines => lines.map (·.drop margin)
  ['\n'].intercalate lines ++ if endsLine text then ['\n'] else []

/-- The template without the first `margin` characters of its lines. -/
def dedentParts (margin : Nat) (begun : Bool) : List Part → List Part
  | [] => []
  | .literal text :: parts =>
    .literal (dedentText margin begun text) :: dedentParts margin (!endsLine text) parts
  | part :: parts => part :: dedentParts margin true parts

/-- The template without its margin. -/
def dedent (parts : List Part) : List Part :=
  match (indentsOfParts false parts).min? with
  | none | some 0 => parts
  | some margin => dedentParts margin false parts

end InfraConfig.Document
