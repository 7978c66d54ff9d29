import TypedVocabulary.Generation.Backend
import TypedVocabulary.Settings.Sources
import TypedVocabulary.Text.Order

/-! # Registry of backends

Backends are found by the name of their language or by an alias, without regard to letter case. An
alias belongs to one language and is never the name of a language. A refused registration leaves
no trace.
-/
namespace TypedVocabulary

/-- A language with its backend and its other names, in order. Names are in lower case. -/
structure Registry.Entry where
  language : String
  backend : Backend
  aliases : List String

structure Registry where
  entries : List Registry.Entry
  aliases : List (String × String)

namespace Registry

def empty : Registry := ⟨[], []⟩

def entry? (r : Registry) (key : String) : Option Entry :=
  r.entries.find? (·.language == key)

def owner? (r : Registry) (name : String) : Option String :=
  KeyedList.value? r.aliases name

def languages (r : Registry) : List String := Text.sort (r.entries.map Entry.language)

/-! ## Registration -/

def distinct (names : List String) : List String := Text.sort names.eraseDups

def aliasKeys (key : String) (aliases : List String) : List String :=
  distinct ((aliases.map Text.lower).filter (· ≠ key))

def checkLanguage (r : Registry) (key : String) : Except RegistryError Unit :=
  match r.owner? key with
  | some owner => .error (.nameIsAlias key owner)
  | none => .ok ()

/-- An alias may be new or belong to the language already. -/
def checkAlias (r : Registry) (key name : String) : Except RegistryError Unit :=
  let owner := (r.owner? name).getD key
  if (r.entry? name).isSome || owner ≠ key then .error (.aliasTaken name owner) else .ok ()

def putEntry (e : Entry) : List Entry → List Entry
  | [] => [e]
  | f :: rest => if f.language = e.language then e :: rest else f :: putEntry e rest

/-- A language that is registered again gets the new backend and keeps its aliases. -/
def register (r : Registry) (language : String) (b : Backend) (aliases : List String) :
    Except RegistryError Registry := do
  let key := Text.lower language
  r.checkLanguage key
  let names := aliasKeys key aliases
  names.forM (r.checkAlias key)
  let former := ((r.entry? key).map Entry.aliases).getD []
  return ⟨putEntry ⟨key, b, distinct (names ++ former)⟩ r.entries,
    names.foldl (fun table name => KeyedList.put name key table) r.aliases⟩

/-- A registration from values that are not checked yet. -/
def registerValue (r : Registry) (language : Json) (b : Option Backend) (aliases : Json) :
    Attempt Registry := do
  match b with
  | none => throw (.registry .notGenerator)
  | some b =>
    let name ← language.asText
    (r.checkLanguage (Text.lower name)).mapError .registry
    let names ← (if aliases.truthy then do (← aliases.visit).mapM Json.asText else return [])
    (r.register name b names).mapError .registry

/-- Removes a language with its aliases; an alias does not name what is removed. -/
def unregister (r : Registry) (language : String) : Registry :=
  match r.entry? (Text.lower language) with
  | none => r
  | some e => ⟨r.entries.filter (·.language ≠ e.language),
      r.aliases.filter fun a => !e.aliases.contains a.1⟩

/-! ## Look-up -/

def find (r : Registry) (name : String) : Except RegistryError Entry :=
  let key := Text.lower name
  match r.entry? ((r.owner? key).getD key) with
  | some e => .ok e
  | none => .error (.unknownLanguage name r.languages)

def resolve (r : Registry) (name : String) : Except RegistryError String :=
  (r.find name).map Entry.language

/-- The aliases of a language; an alias has none. -/
def aliasesOf (r : Registry) (language : String) : List String :=
  ((r.entry? (Text.lower language)).map Entry.aliases).getD []

def isSupported (r : Registry) (name : String) : Bool :=
  let key := Text.lower name
  (r.entry? key).isSome || (r.owner? key).isSome

/-! ## Generators -/

/-- Settings for a language: overrides, the path of a settings file, or none. -/
def settingsFor (files : FileTree) (language : String) (source : Json) : Attempt Settings :=
  match source with
  | .null => Settings.load files (.str language) .null .null
  | .obj _ => Settings.load files (.str language) source .null
  | .str _ => Settings.load files (.str language) .null source
  | v => .error (.registry (.invalidConfig v.kindName))

def create (r : Registry) (files : FileTree) (name : String) (source : Json) :
    Attempt Generator := do
  let e ← (r.find name).mapError .registry
  match settingsFor files e.language source with
  | .ok settings => Generator.create e.backend settings
  | .error (.config fault) => throw (.registry (.creationFailed name fault))
  | .error fault => throw fault

def createWith (r : Registry) (name : String) (settings : Settings) : Attempt Generator := do
  Generator.create (← (r.find name).mapError .registry).backend settings

structure Description where
  generator : Generator
  aliases : List String

def describe (r : Registry) (name : String) : Attempt Description := do
  let e ← (r.find name).mapError .registry
  let settings ← settingsFor .empty e.language .null
  return ⟨← Generator.create e.backend settings, e.aliases⟩

end Registry
end TypedVocabulary
