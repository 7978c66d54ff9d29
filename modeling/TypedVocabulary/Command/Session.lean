import TypedVocabulary.Console.Markup
import TypedVocabulary.Console.Table
import TypedVocabulary.Log
import TypedVocabulary.Source.FileTree

/-! # Sessions

A command runs in a session, which holds what has been printed and the files as they are by now. A
failure ends the command and leaves the session as it is. Log records of the session's level are
printed as they are written.
-/
namespace TypedVocabulary.Command

structure Session where
  threshold : Level
  output : List String
  files : FileTree

abbrev Step (α : Type) := ExceptT Failure (StateM Session) α

namespace Step

def showLines (lines : List String) : Step Unit :=
  modify fun s => { s with output := s.output ++ lines }

def print (text : String) : Step Unit := do
  let plain ← (Markup.plain text : Attempt String)
  showLines (Console.wrapped Console.width .fold plain)

def recordLines (r : Record) : List String :=
  match Console.wrapped (Console.width - 9) .fold r.message with
  | [] => []
  | first :: rest =>
    (Console.padTo 8 r.level.label ++ " " ++ first) :: rest.map (Console.fill ' ' 9 ++ ·)

/-- Takes over the records and the outcome of a computation. -/
def perform {α : Type} (x : Logged α) : Step α := do
  let (records, outcome) := x.readAt (← get).threshold
  showLines (records.flatMap recordLines)
  match outcome with
  | .ok a => return a
  | .error e => throw e

def note (level : Level) (text : String) : Step Unit :=
  perform (Logged.write level Log.commandSource text)

/-- Changes the files; a failure keeps what has been done until then. -/
def changeFiles (change : FileTree → FileTree.Change) : Step Unit := do
  let (files, outcome) := change (← get).files
  modify fun s => { s with files }
  match outcome with
  | .ok () => return ()
  | .error e => throw e

end Step
end TypedVocabulary.Command
