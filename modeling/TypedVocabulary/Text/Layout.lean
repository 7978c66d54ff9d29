import TypedVocabulary.Text.Slice

/-! # Layout of generated text

Lines carry no blanks at their ends, at most one empty line separates others, and a text starts and
ends with a line that is not empty.
-/
namespace TypedVocabulary.Text

def isMargin (c : Char) : Bool := c == ' ' || c == '\t'

/-- Runs of empty lines shrink to one, and those at the end vanish. `gap` tells whether an empty
line has been passed since the last other one. -/
def squeeze (gap : Bool) : List (List Char) → List (List Char)
  | [] => []
  | l :: ls =>
    if l.isEmpty then squeeze true ls
    else (if gap then [[]] else []) ++ l :: squeeze false ls

def tidyLines (cs : List Char) : List (List Char) :=
  squeeze false (((splitOn '\n' cs).map (trimRight isMargin)).dropWhile List.isEmpty)

def joinLines : List (List Char) → List Char
  | [] => []
  | [l] => l
  | l :: ls => l ++ '\n' :: joinLines ls

def formatChars (cs : List Char) : List Char := joinLines (tidyLines cs) ++ ['\n']

def format (s : String) : String := String.ofList (formatChars s.toList)

end TypedVocabulary.Text
