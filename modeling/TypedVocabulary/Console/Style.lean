import TypedVocabulary.Console.ColorNames
import TypedVocabulary.Text.Digit
import TypedVocabulary.Text.Lowercase

/-! # Styles

A style is written in words: attributes, which a word may turn off, a color, a background and a
link. Styles that look the same have one normal form, by which tags find their style.
-/
namespace TypedVocabulary

inductive StyleAttribute
  | bold
  | dim
  | italic
  | underline
  | blink
  | blink2
  | reverse
  | conceal
  | strike
  | underline2
  | frame
  | encircle
  | overline
  deriving DecidableEq

namespace StyleAttribute

def all : List StyleAttribute :=
  [bold, dim, italic, underline, blink, blink2, reverse, conceal, strike, underline2, frame,
   encircle, overline]

def label : StyleAttribute → String
  | bold => "bold"
  | dim => "dim"
  | italic => "italic"
  | underline => "underline"
  | blink => "blink"
  | blink2 => "blink2"
  | reverse => "reverse"
  | conceal => "conceal"
  | strike => "strike"
  | underline2 => "underline2"
  | frame => "frame"
  | encircle => "encircle"
  | overline => "overline"

def ofShortWord? : String → Option StyleAttribute
  | "b" => some bold
  | "d" => some dim
  | "i" => some italic
  | "u" => some underline
  | "r" => some reverse
  | "c" => some conceal
  | "s" => some strike
  | "uu" => some underline2
  | "o" => some overline
  | _ => none

def ofWord? (word : String) : Option StyleAttribute :=
  (all.find? (·.label == word)).or (ofShortWord? word)

end StyleAttribute

structure Style where
  attributes : List (StyleAttribute × Bool)
  color : Option String
  background : Option String
  link : Option String

namespace Style

inductive Fault
  | unknownWord
  | notNumber
  deriving DecidableEq

def plain : Style := ⟨[], none, none, none⟩

/-! ## Colors -/

def isHexColor (cs : List Char) : Bool :=
  cs.length = 6 && cs.all fun c => ('0' ≤ c && c ≤ '9') || ('a' ≤ c && c ≤ 'f')

def call? (word : String) (cs : List Char) : Option (List Char) := do
  let rest ← (word ++ "(").toList.isPrefixOf? cs
  match rest.reverse with
  | ')' :: inside => return inside.reverse
  | _ => none

def isPaletteNumber (cs : List Char) : Bool :=
  !cs.isEmpty && cs.length ≤ 3 && cs.all Char.isDigit &&
    (Text.unsignedNumber? cs).any (· ≤ 255)

def readComponents (cs : List Char) : Except Fault Unit := do
  if cs.isEmpty || !cs.all fun c => c == ',' || Text.isDecimalDigit c then throw .unknownWord
  let parts := Text.splitOn ',' cs
  if parts.length ≠ 3 then throw .unknownWord
  let numbers ← parts.mapM fun p => (Text.unsignedNumber? p).elim (throw .notNumber) pure
  if !numbers.all (· ≤ 255) then throw .unknownWord

/-- A color in lower case: a name, digits after a number sign, or numbers in parentheses. -/
def checkColor (word : String) : Except Fault Unit :=
  if word = "default" || Console.colorNames.contains word then .ok ()
  else
    match word.toList with
    | '#' :: digits => if isHexColor digits then .ok () else .error .unknownWord
    | cs =>
      match call? "color" cs, call? "rgb" cs with
      | some number, _ => if isPaletteNumber number then .ok () else .error .unknownWord
      | none, some components => readComponents components
      | none, none => .error .unknownWord

def readColor (word : String) : Except Fault String := do
  let color := Text.lower word
  checkColor color
  return color

/-! ## Words -/

/-- A later attribute of the same kind counts. -/
def setAttribute (s : Style) (a : StyleAttribute) (on : Bool) : Style :=
  { s with attributes := (a, on) :: s.attributes }

def readWords (s : Style) : List String → Except Fault Style
  | [] => .ok s
  | word :: rest =>
    match Text.lower word, rest with
    | "on", c :: rest => do readWords { s with background := some (← readColor c) } rest
    | "not", a :: rest =>
      match StyleAttribute.ofWord? a with
      | some a => readWords (s.setAttribute a false) rest
      | none => .error .unknownWord
    | "link", address :: rest => readWords { s with link := some address } rest
    | word, rest =>
      match StyleAttribute.ofWord? word with
      | some a => readWords (s.setAttribute a true) rest
      | none => do readWords { s with color := some (← readColor word) } rest

def words (s : String) : List String :=
  ((Text.splitOn ' ' (s.toList.map fun c => if Text.isSpace c then ' ' else c)).filter
    (!·.isEmpty)).map String.ofList

def read (s : String) : Except Fault Style :=
  match words s with
  | ["none"] => .ok plain
  | ws => readWords plain ws

def text (s : Style) : String :=
  let attributes := StyleAttribute.all.filterMap fun a =>
    (s.attributes.find? (·.1 == a)).map fun (_, on) => if on then a.label else "not " ++ a.label
  let parts := attributes ++ s.color.toList ++ (s.background.map ("on " ++ ·)).toList ++
    (s.link.map ("link " ++ ·)).toList
  if parts.isEmpty then "none" else String.intercalate " " parts

/-- What is no style is compared as text, without the space around it and without case. -/
def normalName (s : String) : Except Fault String :=
  match read s with
  | .ok style => .ok style.text
  | .error .unknownWord =>
    .ok (Text.lower (String.ofList (Text.trim Text.isSpace s.toList)))
  | .error .notNumber => .error .notNumber

end Style
end TypedVocabulary
