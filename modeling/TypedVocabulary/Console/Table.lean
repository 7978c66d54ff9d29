import TypedVocabulary.Console.Wrap

/-! # Tables and panels

A table is a title over columns that are as wide as their widest cell, in a frame of box characters.
The last column has to do with what the others leave of the console. A cell of several lines makes a
row of several lines. A panel is a box over the whole width of the console with its title in the
upper edge.
-/
namespace TypedVocabulary.Console

def fill (c : Char) (n : Nat) : String := String.ofList (List.replicate n c)

def padTo (n : Nat) (s : String) : String := s ++ fill ' ' (n - Text.width s)

/-- A text in the middle of a line; an odd blank goes to its right. -/
def centre (n : Nat) (s : String) : String := padTo n (fill ' ' ((n - Text.width s) / 2) ++ s)

/-! ## Tables -/

/-- The characters of a line of a frame: its ends, its filling, and what stands between columns. -/
structure Edge where
  left : Char
  filler : Char
  divider : Char
  right : Char

structure Frame where
  top : Edge
  row : Edge
  separator : Edge
  bottom : Edge

def rounded : Frame :=
  ⟨⟨'╭', '─', '┬', '╮'⟩, ⟨'│', ' ', '│', '│'⟩, ⟨'├', '─', '┼', '┤'⟩, ⟨'╰', '─', '┴', '╯'⟩⟩

def ruled : Frame :=
  ⟨⟨' ', ' ', ' ', ' '⟩, ⟨' ', ' ', ' ', ' '⟩, ⟨' ', '─', '─', ' '⟩, ⟨' ', ' ', ' ', ' '⟩⟩

def divided : Frame :=
  ⟨⟨' ', ' ', '╷', ' '⟩, ⟨' ', ' ', '│', ' '⟩, ⟨'╶', '─', '┼', '╴'⟩, ⟨' ', ' ', '╵', ' '⟩⟩

structure Table where
  title : String
  header : List String
  rows : List (List String)

namespace Table

/-- The width that a cell asks for. Any line end counts, and a tab counts for nothing, although
neither holds for the lines that the cell is shown in. -/
def cellWidth (cell : String) : Nat :=
  ((Text.brokenLines (String.ofList (visible cell.toList))).map Text.width).foldl max 0

def widestCells (t : Table) : List Nat :=
  t.rows.foldl (fun ws row => ws.zipWith (fun w cell => max w (cellWidth cell)) row)
    (t.header.map cellWidth)

/-- The columns that a line of the frame takes apart from the cells in it. -/
def frameWidth (columns : Nat) : Nat := 3 * columns + 1

def widths (t : Table) : List Nat :=
  let wanted := t.widestCells
  let others := wanted.dropLast
  others ++ (wanted.getLast?.map fun w =>
    min w (width - frameWidth wanted.length - others.foldl (· + ·) 0)).toList

def edgeLine (e : Edge) (widths : List Nat) : String :=
  e.left.toString ++
    String.intercalate e.divider.toString (widths.map fun w => fill e.filler (w + 2)) ++
    e.right.toString

def rowLine (e : Edge) (widths : List Nat) (cells : List String) : String :=
  e.left.toString ++
    String.intercalate e.divider.toString
      (widths.zipWith (fun w cell => " " ++ padTo w cell ++ " ") cells) ++
    e.right.toString

def rowLines (e : Edge) (widths : List Nat) (cells : List String) : List String :=
  let columns := widths.zipWith (fun w cell => wrapped w .ellipsis cell) cells
  (List.range ((columns.map List.length).foldl max 0)).map fun i =>
    rowLine e widths (columns.map fun column => column.getD i "")

def linesOf (f : Frame) (t : Table) : List String :=
  let ws := t.widths
  let top := edgeLine f.top ws
  [centre top.length t.title, top] ++ rowLines f.row ws t.header ++ [edgeLine f.separator ws] ++
    t.rows.flatMap (rowLines f.row ws) ++ [edgeLine f.bottom ws]

end Table

/-! ## Panels -/

def pairLines (pairs : List (String × String)) : List String :=
  let w := (pairs.map fun p => Text.width p.1).foldl max 0
  pairs.map fun (key, value) => padTo w key ++ "  " ++ value

def panelTop (title : String) : String :=
  let shown := " " ++ title ++ " "
  let left := (width - 2 - shown.length) / 2
  "╭" ++ fill '─' left ++ shown ++ fill '─' (width - 2 - shown.length - left) ++ "╮"

def panel (title : String) (content : List String) : List String :=
  [panelTop title] ++ content.map (fun l => "│ " ++ padTo (width - 4) l ++ " │") ++
    ["╰" ++ fill '─' (width - 2) ++ "╯"]

end TypedVocabulary.Console
