import TypedVocabulary.Failure
import TypedVocabulary.Text.Lowercase
import TypedVocabulary.Text.Slice

/-! # File trees

Files and directories around a working directory, as data. Reading answers with the refusals that a
file system gives, and writing yields a new tree. A path is a list of names; empty names and single
dots vanish when it is read, while two dots go up when it is looked up.
-/
namespace TypedVocabulary

structure Path where
  /-- What stands before the first name: nothing, one slash or two. -/
  lead : String
  names : List String
  deriving DecidableEq

namespace Path

/-- Two slashes in front are kept; more than two count as one. -/
def leadOf (cs : List Char) : String :=
  match (cs.takeWhile (· == '/')).length with
  | 0 => ""
  | 2 => "//"
  | _ => "/"

def ofText (s : String) : Path :=
  ⟨leadOf s.toList,
    ((Text.splitOn '/' s.toList).map String.ofList).filter fun n => n ≠ "" ∧ n ≠ "."⟩

def absolute (p : Path) : Bool := p.lead ≠ ""

def text (p : Path) : String :=
  if p.lead = "" ∧ p.names = [] then "." else p.lead ++ String.intercalate "/" p.names

def parent (p : Path) : Path := ⟨p.lead, p.names.dropLast⟩

def append (p : Path) (names : List String) : Path := ⟨p.lead, p.names ++ names⟩

/-- The file system takes no zero character. -/
def isUsable (p : Path) : Bool := p.names.all fun n => !n.toList.contains '\x00'

def maxBytes : Nat := 4095

def maxNameBytes : Nat := 255

/-- The last dot of the last name with what follows, unless it is the first or last character. -/
def extension (p : Path) : String :=
  let name := (p.names.getLast?.getD "").toList
  let tail := Text.afterLast '.' name
  if tail.isEmpty || name.length ≤ tail.length + 1 then "" else String.ofList ('.' :: tail)

def hasExtension (p : Path) (extensions : List String) : Bool :=
  extensions.contains (Text.lower p.extension)

end Path

inductive FileContent
  | text (s : String)
  | bytes (b : ByteArray)

/-- The names on the way to a file or directory from the working directory. Two dots in front go up
from there, and a slash in front stands for the root of all. -/
abbrev Place := List String

namespace Place

def root : Place := ["/"]

def isAbove (p : Place) : Bool := p.all (· == "..")

def up (p : Place) : Place :=
  if p = root then root else if p.isAbove then p ++ [".."] else p.dropLast

def isInside (p : Place) : Bool := p.head? ≠ some ".." && p.head? ≠ some "/"

end Place

structure FileTree where
  files : List (Place × FileContent)
  dirs : List Place

namespace FileTree

def empty : FileTree := ⟨[], [[]]⟩

inductive Node
  | file (place : Place) (content : FileContent)
  | directory (place : Place)

def file? (t : FileTree) (place : Place) : Option FileContent :=
  KeyedList.value? t.files place

def nodeAt (t : FileTree) (place : Place) : Except AccessCause Node :=
  match t.file? place with
  | some content => .ok (.file place content)
  | none => if t.dirs.contains place then .ok (.directory place) else .error .missing

def walk (t : FileTree) : Node → List String → Except AccessCause Node
  | node, [] => .ok node
  | .file _ _, _ :: _ => .error .notDirectory
  | .directory place, name :: rest =>
    if name = ".." then walk t (.directory place.up) rest
    else if Path.maxNameBytes < name.utf8ByteSize then .error .nameTooLong
    else do
      let node ← t.nodeAt (place ++ [name])
      walk t node rest

def node (t : FileTree) (p : Path) : Except AccessCause Node :=
  if Path.maxBytes < p.text.utf8ByteSize then .error .nameTooLong
  else walk t (.directory (if p.absolute then Place.root else [])) p.names

/-- Whether there is something; a name that is too long cannot even be looked up. -/
def pathExists (t : FileTree) (p : Path) : Attempt Bool :=
  if !p.isUsable then .ok false
  else
    match t.node p with
    | .ok _ => .ok true
    | .error .nameTooLong => .error (.access ⟨.nameTooLong, p.text⟩)
    | .error _ => .ok false

def isFile (t : FileTree) (p : Path) : Bool :=
  match t.node p with
  | .ok (.file _ _) => true
  | _ => false

def isDirectory (t : FileTree) (p : Path) : Bool :=
  match t.node p with
  | .ok (.directory _) => true
  | _ => false

/-! ## Reading -/

def decodeContent : FileContent → Attempt String
  | .text s => .ok (String.ofList (Text.unifyLineEnds s.toList))
  | .bytes b =>
    match String.fromUTF8? b with
    | some s => .ok (String.ofList (Text.unifyLineEnds s.toList))
    | none => .error (.misuse .notUtf8)

def «open» (t : FileTree) (p : Path) : Except AccessError FileContent :=
  match t.node p with
  | .ok (.file _ content) => .ok content
  | .ok _ => .error ⟨.isDirectory, p.text⟩
  | .error cause => .error ⟨cause, p.text⟩

/-! ## Writing -/

/-- The place of a new entry: its directory has to be there. -/
def placeOf (t : FileTree) (p : Path) : Except AccessCause Place := do
  match p.names.getLast? with
  | none => throw .alreadyExists
  | some name =>
    match ← t.node p.parent with
    | .directory place => return place ++ [name]
    | .file _ _ => throw .notDirectory

/-- A tree after a step, which may have failed half-way. -/
abbrev Change := FileTree × Attempt Unit

def refused (t : FileTree) (cause : AccessCause) (p : Path) : Change :=
  (t, .error (.access ⟨cause, p.text⟩))

def onUsable (t : FileTree) (p : Path) (step : Change) : Change :=
  if p.isUsable then step else (t, Attempt.outOfDomain)

def writeText (t : FileTree) (p : Path) (s : String) : Change :=
  match t.node p with
  | .ok (.file place _) => (⟨KeyedList.put place (.text s) t.files, t.dirs⟩, .ok ())
  | .ok _ => t.refused .isDirectory p
  | .error .missing =>
    match t.placeOf p with
    | .ok place => (⟨KeyedList.put place (.text s) t.files, t.dirs⟩, .ok ())
    | .error cause => t.refused cause p
  | .error cause => t.refused cause p

def write (t : FileTree) (p : Path) (s : String) : Change := t.onUsable p (t.writeText p s)

def makeDirectory (t : FileTree) (p : Path) : Except AccessCause FileTree :=
  match t.node p with
  | .ok _ => .error .alreadyExists
  | .error .missing => do
    let place ← t.placeOf p
    return ⟨t.files, t.dirs ++ [place]⟩
  | .error cause => .error cause

/-- What becomes of a try to make a directory: that it is there already is no fault. -/
def settleDirectory (t : FileTree) (p : Path) : Except AccessCause FileTree → Change
  | .ok made => (made, .ok ())
  | .error cause => if t.isDirectory p then (t, .ok ()) else t.refused cause p

/-- Makes the directories at the end of a path, of which `depth` may be missing. One that is there
already is no fault. -/
def makeDirectories (t : FileTree) (depth : Nat) (p : Path) : Change :=
  match t.makeDirectory p with
  | .ok t' => (t', .ok ())
  | .error .missing =>
    match depth with
    | 0 => t.refused .missing p
    | depth + 1 =>
      match makeDirectories t depth p.parent with
      | (above, .ok ()) => above.settleDirectory p (above.makeDirectory p)
      | failed => failed
  | .error cause => t.settleDirectory p (.error cause)

def ensureDirectory (t : FileTree) (p : Path) : Change :=
  t.onUsable p (t.makeDirectories p.names.length p)

def addFile (t : FileTree) (place : Place) (content : FileContent) : FileTree :=
  ⟨KeyedList.put place content t.files,
    (t.dirs ++ (List.range place.length).map place.take).eraseDups⟩

def addDirectory (t : FileTree) (place : Place) : FileTree :=
  ⟨t.files, (t.dirs ++ (List.range (place.length + 1)).map place.take).eraseDups⟩

end FileTree
end TypedVocabulary
