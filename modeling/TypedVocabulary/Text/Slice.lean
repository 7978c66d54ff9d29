/-! # Slices of texts

Texts are cut as lists of characters: at a marker in front, at the last or the first separator,
and at every separator.
-/
namespace TypedVocabulary.Text

def occurs (word : List Char) : List Char → Bool
  | [] => word.isEmpty
  | c :: cs => word.isPrefixOf (c :: cs) || occurs word cs

/-- What follows the last `sep`; the whole text without one. -/
def afterLast (sep : Char) (cs : List Char) : List Char :=
  (cs.reverse.takeWhile (· != sep)).reverse

def cut? (sep : Char) : List Char → Option (List Char × List Char)
  | [] => none
  | c :: cs =>
    if c = sep then some ([], cs)
    else (cut? sep cs).map fun (before, after) => (c :: before, after)

/-- The pieces between separators; an empty text is one empty piece. -/
def splitOn (sep : Char) : List Char → List (List Char)
  | [] => [[]]
  | c :: cs =>
    if c = sep then [] :: splitOn sep cs
    else
      match splitOn sep cs with
      | [] => [[c]]
      | piece :: pieces => (c :: piece) :: pieces

def trimLeft (p : Char → Bool) (cs : List Char) : List Char := cs.dropWhile p

def trimRight (p : Char → Bool) (cs : List Char) : List Char :=
  (cs.reverse.dropWhile p).reverse

def trim (p : Char → Bool) (cs : List Char) : List Char := trimRight p (trimLeft p cs)

def lines (s : String) : List String := (splitOn '\n' s.toList).map String.ofList

def breaksLine (c : Char) : Bool :=
  [0xA, 0xB, 0xC, 0xD, 0x1C, 0x1D, 0x1E, 0x85, 0x2028, 0x2029].contains c.toNat

/-- Each of the three line ends counts as a line feed. -/
def unifyLineEnds : List Char → List Char
  | [] => []
  | '\r' :: '\n' :: cs => '\n' :: unifyLineEnds cs
  | '\r' :: cs => '\n' :: unifyLineEnds cs
  | c :: cs => c :: unifyLineEnds cs

/-- The lines of a text, ended by any character that breaks lines. -/
def brokenLines (s : String) : List String :=
  (splitOn '\n' ((unifyLineEnds s.toList).map fun c => if breaksLine c then '\n' else c)).map
    String.ofList

end TypedVocabulary.Text
