import TypedVocabulary.Json.Membership
import TypedVocabulary.Json.Writer
import TypedVocabulary.Text.Slice

/-! # Examples in documentation

An example becomes the lines of a code block. Lists and objects are shown as JSON over several
lines; any other value is shown on its own, bare under a numeric type and in quotes otherwise.
Doubles without a fraction are shown as whole numbers, at any depth.
-/
namespace TypedVocabulary.Sample

mutual

def plainNumbers : Json → Json
  | .float x => (x.toInt?).elim (.float x) .int
  | .arr items => .arr (plainItems items)
  | .obj members => .obj (plainMembers members)
  | v => v

def plainItems : List Json → List Json
  | [] => []
  | v :: vs => plainNumbers v :: plainItems vs

def plainMembers : List (String × Json) → List (String × Json)
  | [] => []
  | (k, v) :: ms => (k, plainNumbers v) :: plainMembers ms

end

def integerWord : String := "Integer"
def floatWord : String := "Float"

def isNumeric (requiredType : String) : Bool :=
  Text.occurs integerWord.toList requiredType.toList ||
    Text.occurs floatWord.toList requiredType.toList

def scalarText : Json → String
  | .bool b => if b then "true" else "false"
  | v => v.display

def body (value : Json) (numeric : Bool) : String :=
  match value with
  | .arr _ => value.write
  | .obj _ => value.write
  | v => if numeric then scalarText v else "\"" ++ scalarText v ++ "\""

def label (fieldName : Json) : String :=
  if fieldName.truthy then "\"" ++ fieldName.display ++ "\": " else ""

def openTag : String := "<code>"
def closeTag : String := "</code>"

def lines (value fieldName : Json) (numeric : Bool) : List String :=
  openTag :: Text.lines (label fieldName ++ body (plainNumbers value) numeric) ++ [closeTag]

/-! ## Types of any kind -/

/-- An absent type is not numeric; any other is asked for the words of numeric types. -/
def namesNumeric (requiredType : Json) : Attempt Bool := do
  if requiredType.truthy then
    if ← (Json.str integerWord).occursIn requiredType then return true
    else (Json.str floatWord).occursIn requiredType
  else return false

/-- The lines under a type of any kind, which lists and objects do not ask for. -/
def linesOf (value fieldName requiredType : Json) : Attempt (List String) :=
  match value with
  | .arr _ => .ok (lines value fieldName false)
  | .obj _ => .ok (lines value fieldName false)
  | _ => return lines value fieldName (← namesNumeric requiredType)

end TypedVocabulary.Sample
