import TypedVocabulary.Json.Table
import TypedVocabulary.Vocabulary.Reference

/-! # Vocabularies

A vocabulary maps prefixes to namespaces. It turns every form of a reference into one compact key
`prefix:Name` and tells whether a reference belongs to the foundation vocabulary. Namespaces may
overlap: the longest that begins a reference counts, the first declared among equally long ones.
-/
namespace TypedVocabulary

/-- Namespaces and prefixes are taken as they were written; only texts serve as namespaces. -/
structure Vocabulary where
  namespaces : Table
  localPrefix : Json
  foundationPrefix : Json
  /-- When given, only these names count as foundation types. -/
  foundationTypes : Option (List String)

namespace Vocabulary

def defaultNamespaces : List (String × Json) :=
  [("schema", .str "https://schema.org/"),
   ("oa", .str "https://openactive.io/"),
   ("beta", .str "https://openactive.io/ns-beta#"),
   ("skos", .str "http://www.w3.org/2004/02/skos/core#")]

/-- The names in a collection of foundation types; null leaves the types open. -/
def readFoundationTypes : Json → Attempt (Option (List String))
  | .null => .ok none
  | v => do
    let items ← v.visit
    if items.all Json.hashable then return some (items.filterMap Json.text?)
    else Attempt.wrongOperand

def ofSettings (namespaces localPrefix foundationPrefix foundationTypes : Json) :
    Attempt Vocabulary := do
  let types ← readFoundationTypes foundationTypes
  let table ← Table.read namespaces
  return ⟨table, localPrefix, foundationPrefix, types⟩

def ofParts (namespaces localPrefix foundationPrefix foundationTypes : Json) :
    Attempt Vocabulary := do
  let table ← Table.read namespaces
  let types ← readFoundationTypes foundationTypes
  return ⟨table, localPrefix, foundationPrefix, types⟩

/-! ## Compact keys -/

def namespaceSize : Json → Attempt Nat
  | .str s => .ok s.length
  | .arr items => .ok items.length
  | .obj members => .ok members.length
  | _ => Attempt.wrongOperand

structure Entry where
  key : String
  space : Json
  size : Nat

/-- Before all that are not longer. -/
def insertEntry (e : Entry) : List Entry → List Entry
  | [] => [e]
  | f :: rest => if f.size ≤ e.size then e :: f :: rest else f :: insertEntry e rest

/-- The entries from the longest to the shortest, equally long ones in their order. -/
def longestFirst : List Entry → List Entry
  | [] => []
  | e :: rest => insertEntry e (longestFirst rest)

def entries (v : Vocabulary) : Attempt (List Entry) :=
  v.namespaces.mapM fun (key, space) => do
    return ⟨key.display, space, ← namespaceSize space⟩

/-- The prefix of the first entry that begins the reference, with the rest of the reference. -/
def matchEntry (cs : List Char) : List Entry → Attempt (Option (String × List Char))
  | [] => .ok none
  | e :: rest => do
    let space ← e.space.asOperand
    match space.toList.isPrefixOf? cs with
    | some name => .ok (some (e.key, name))
    | none => matchEntry cs rest

/-- The compact key of a reference. One outside every known namespace stays as it is, so that it
never meets the key of a known prefix. -/
def compactChars (v : Vocabulary) (cs : List Char) : Attempt String :=
  match Reference.stripMark cs with
  | '#' :: name => .ok (v.localPrefix.display ++ ":" ++ String.ofList name)
  | cs => do
    match ← matchEntry cs (longestFirst (← v.entries)) with
    | some (key, name) => return key ++ ":" ++ String.ofList name
    | none => return String.ofList cs

def compact (v : Vocabulary) (s : String) : Attempt String := v.compactChars s.toList

def declares (v : Vocabulary) (key : String) : Bool := (v.namespaces.find? key).isSome

def prefixOf (v : Vocabulary) (s : String) : Attempt (Option String) := do
  match Text.cut? ':' (← v.compact s).toList with
  | some (key, _) =>
    return if v.declares (String.ofList key) then some (String.ofList key) else none
  | none => return none

/-- An absent value is in no vocabulary; any other has to be a text. -/
def isFoundationNamespace (v : Vocabulary) (value : Json) : Attempt Bool := do
  if value.truthy then
    return Json.ofOption (← v.prefixOf (← value.asText)) == v.foundationPrefix
  else return false

def isFoundation (v : Vocabulary) (value : Json) : Attempt Bool := do
  if ← v.isFoundationNamespace value then
    match v.foundationTypes with
    | none => return true
    | some names => return names.contains (Reference.shortName (← value.asText))
  else return false

def expand (v : Vocabulary) (s : String) : String :=
  match Text.cut? ':' s.toList with
  | some (key, name) =>
    match v.namespaces.find? (String.ofList key) with
    | some space => space.display ++ String.ofList name
    | none => s
  | none => s

end Vocabulary
end TypedVocabulary
