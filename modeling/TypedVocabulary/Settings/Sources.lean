import TypedVocabulary.Json.Reader
import TypedVocabulary.Settings.Basic
import TypedVocabulary.Source.FileTree

/-! # Where settings come from

The defaults of a language, then a settings file, then overrides: later values replace earlier
ones, and custom settings are merged one by one. A name that is no setting becomes a custom one.
Saved settings are a flat object in which the custom settings stand beside the others.
-/
namespace TypedVocabulary.Settings

open Json (find?)
open KeyedList (put putAll)

def durationConverterDefault : String := "OpenActiveTimeSpanToISO8601DurationValuesConverter"
def timeConverterDefault : String := "OpenActiveDateTimeOffsetToISO8601TimeValuesConverter"
def unionConverterDefault : String := "ValuesConverter"

def languageDefaults : List (String × List (String × Json)) :=
  [("dotnet",
    [("namespace", .str "OpenActive.NET"),
     ("foundation_namespace", .str "Schema.NET"),
     ("foundation_root", .str "JsonLdObject"),
     ("union_type", .str "SingleValues"),
     ("list_type", .str "List"),
     ("add_comments", .bool true),
     ("add_code_examples", .bool true),
     ("custom", .obj
       [("duration_converter", .str durationConverterDefault),
        ("time_converter", .str timeConverterDefault),
        ("union_converter", .str unionConverterDefault)])])]

def languages : List String := languageDefaults.map (·.1)

def defaultsFor (language : Json) : Attempt (List (String × Json)) :=
  if language.hashable then
    .ok (match language with
      | .str l => (KeyedList.value? languageDefaults l).getD []
      | _ => [])
  else Attempt.wrongOperand

/-- Custom settings are merged only into an object. -/
def mergeOne (base : List (String × Json)) (entry : String × Json) :
    Attempt (List (String × Json)) :=
  match entry with
  | ("custom", .obj members) =>
    match (find? "custom" base).getD (.obj []) with
    | .obj old => .ok (put "custom" (.obj (putAll old members)) base)
    | _ => Attempt.lacksOperation
  | (name, value) => .ok (put name value base)

def merge (base overrides : List (String × Json)) : Attempt (List (String × Json)) :=
  overrides.foldlM mergeOne base

/-- Unknown names go to the custom settings. -/
def ofMerged (table : List (String × Json)) : Attempt Settings := do
  let known := table.filter fun m => names.contains m.1
  let unknown := table.filter fun m => !names.contains m.1
  if unknown.isEmpty then return ofTable known
  else
    let custom ← Table.read ((find? "custom" known).getD (.obj []))
    let all := Table.toMembers (putAll custom (Table.ofMembers unknown))
    return ofTable (put "custom" (.obj all) known)

def readFile (t : FileTree) (file : String) : Attempt (List (String × Json)) := do
  let path := Path.ofText file
  if !(← t.pathExists path) then throw (.config (.notFound path.text))
  if !path.hasExtension [".json"] then throw (.config (.notJsonFile path.text))
  match t.open path with
  | .error e => throw (.config (.unreadable path.text e))
  | .ok content =>
    match Json.parse (← FileTree.decodeContent content) with
    | .error (.syntaxError e) => throw (.config (.invalidJson path.text e))
    | .error (.longInteger _ _) => Attempt.outOfDomain
    | .error .tooDeep => Attempt.tooDeep
    | .ok (.obj members) => return members
    | .ok _ => throw (.config (.notObject path.text))

/-- Absent overrides and an absent file change nothing. -/
def load (t : FileTree) (language overrides file : Json) : Attempt Settings := do
  let base ← defaultsFor language
  let base ←
    if file.truthy then do
      let members ← readFile t (← file.asOperand)
      merge base members
    else pure base
  let base ←
    if overrides.truthy then
      match overrides with
      | .obj members => merge base members
      | _ => Attempt.lacksOperation
    else pure base
  ofMerged base

def saved (s : Settings) : Attempt (List (String × Json)) := do
  let custom ← Table.read s.custom
  return Table.toMembers (putAll (Table.ofMembers s.toTable.dropLast) custom)

def save (t : FileTree) (s : Settings) (file : String) : Attempt FileTree := do
  let path := Path.ofText file
  let table ← s.saved
  match t.write path (Json.write (.obj table)) with
  | (t', .ok ()) => return t'
  | (_, .error (.access e)) => throw (.config (.unwritable path.text e))
  | (_, .error e) => throw e

end TypedVocabulary.Settings
