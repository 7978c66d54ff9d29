import TypedVocabulary.Console.Line
import TypedVocabulary.Text.Digit

/-! # Wrapped lines

A line that is too wide is broken in front of the word that no longer fits. The blanks behind a word
belong to it and may stand out at the end of a line, where they are dropped. A word that fits on no
line is either folded into pieces, or kept whole and cut, with a mark for what is missing.
-/
namespace TypedVocabulary.Console

def width : Nat := 300

inductive Overflow
  | fold
  | ellipsis
  deriving DecidableEq

/-- How much of a word has been read: blanks in front of it, some of it, or blanks behind it. -/
inductive WordStage
  | front
  | body
  | behind

/-- The words of a line; `passed` holds the characters of the current one, the last first. A line of
blanks is one word. -/
def words (stage : WordStage) (passed : List Char) : List Char → List (List Char)
  | [] => [passed.reverse]
  | c :: cs =>
    match stage, Text.isSpace c with
    | .front, true => words .front (c :: passed) cs
    | .body, true => words .behind (c :: passed) cs
    | .behind, true => words .behind (c :: passed) cs
    | .behind, false => passed.reverse :: words .body [c] cs
    | _, false => words .body (c :: passed) cs

def cellsOf (cs : List Char) : Nat := cs.foldl (fun n c => n + Text.cells c) 0

/-- Pieces of at most `limit` cells; `used` cells are taken by the current one. -/
def pieces (limit used : Nat) (passed : List Char) : List Char → List (List Char)
  | [] => [passed.reverse]
  | c :: cs =>
    if limit < used + Text.cells c then passed.reverse :: pieces limit (Text.cells c) [c] cs
    else pieces limit (used + Text.cells c) (c :: passed) cs

structure Paragraph where
  finished : List (List Char)
  current : List Char

namespace Paragraph

def toLines (p : Paragraph) : List (List Char) := p.finished ++ [p.current]

def isEmpty (p : Paragraph) : Bool := p.finished.isEmpty && p.current.isEmpty

def openLine (p : Paragraph) (cs : List Char) : Paragraph :=
  if p.isEmpty then ⟨[], cs⟩ else ⟨p.toLines, cs⟩

/-- Adds a word; blanks behind it need no room. -/
def addWord (limit : Nat) (overflow : Overflow) (p : Paragraph) (word : List Char) : Paragraph :=
  let needed := cellsOf (Text.trimRight Text.isSpace word)
  if cellsOf p.current + needed ≤ limit then ⟨p.finished, p.current ++ word⟩
  else if needed ≤ limit || overflow = .ellipsis then p.openLine word
  else (pieces limit 0 [] word).foldl openLine p

end Paragraph

/-! ## Lines that are still too wide -/

def dropBlanks (limit : Nat) (cs : List Char) : List Char :=
  let blanks := (cs.reverse.takeWhile Text.isSpace).length
  cs.take (cs.length - min blanks (cs.length - limit))

/-- Searches for the front part of a text that has `total` cells, between two places. A wide
character in the way is cut in half, which leaves a blank. -/
def frontPart (cs : List Char) (total : Nat) : Nat → Nat → Nat → List Char
  | 0, _, _ => cs
  | steps + 1, low, high =>
    let middle := (low + high) / 2
    let front := cs.take (middle + 1)
    if cellsOf front = total + 1 ∧ (front.getLast?.map Text.cells) = some 2 then
      front.dropLast ++ [' ']
    else if cellsOf front = total then front
    else if total < cellsOf front then frontPart cs total steps low middle
    else frontPart cs total steps middle high

def cutTo (total : Nat) (cs : List Char) : List Char :=
  if total = 0 then [] else frontPart cs total cs.length 0 cs.length

def ellipsisMark : Char := '…'

def crop (limit : Nat) (overflow : Overflow) (cs : List Char) : List Char :=
  if cellsOf cs ≤ limit then cs
  else
    match overflow with
    | .fold => cutTo limit cs
    | .ellipsis => cutTo (limit - 1) cs ++ [ellipsisMark]

def wrapLine (limit : Nat) (overflow : Overflow) (cs : List Char) : List (List Char) :=
  let paragraph := (words .front [] cs).foldl (Paragraph.addWord limit overflow) ⟨[], []⟩
  paragraph.toLines.map fun line => crop limit overflow (dropBlanks limit line)

def wrapped (limit : Nat) (overflow : Overflow) (s : String) : List String :=
  (lines s).flatMap fun l => (wrapLine limit overflow l.toList).map String.ofList

def croppedSource (s : String) : List String :=
  (sourceLines s).map fun l => String.ofList (crop width .fold (dropBlanks width l.toList))

end TypedVocabulary.Console
