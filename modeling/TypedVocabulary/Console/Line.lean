import TypedVocabulary.Text.Slice
import TypedVocabulary.Text.Width

/-! # Console lines

What is printed ends up as lines: tabs become blanks up to the next stop, and control characters
that would move the cursor are dropped.
-/
namespace TypedVocabulary.Console

def movesCursor (c : Char) : Bool := [7, 8, 11, 12, 13].contains c.toNat

def visible (cs : List Char) : List Char := cs.filter fun c => !movesCursor c

/-- Blanks for tabs up to the next stop, `column` being the next column of a line and `cells` the
columns of a character. -/
def expandTabs (cells : Char → Nat) (stop column : Nat) : List Char → List Char
  | [] => []
  | '\t' :: cs =>
    let n := stop - column % stop
    List.replicate n ' ' ++ expandTabs cells stop (column + n) cs
  | c :: cs => c :: expandTabs cells stop (column + cells c) cs

def lines (s : String) : List String :=
  (Text.splitOn '\n' s.toList).map fun cs =>
    String.ofList (expandTabs Text.cells 8 0 (visible cs))

/-! ## Source text -/

/-- In source text every character takes one column, a return starts a line, and there is a tab stop
every four columns. -/
def expandSource (cs : List Char) : List Char :=
  (Text.splitOn '\r' cs).map (expandTabs (fun _ => 1) 4 0) |> List.intercalate ['\r']

/-- A last line feed ends the last line and opens no new one. -/
def dropLastEmpty (ls : List (List Char)) : List (List Char) :=
  if ls.getLast? = some [] then ls.dropLast else ls

def sourceLines (s : String) : List String :=
  let expanded := (Text.splitOn '\n' s.toList).map expandSource |> List.intercalate ['\n']
  (dropLastEmpty (Text.splitOn '\n' (Text.unifyLineEnds expanded))).map
    (fun cs => String.ofList (visible cs)) ++ [""]

end TypedVocabulary.Console
