import TypedVocabulary.Failure
import TypedVocabulary.Json.Writer

/-! # Tables

A table is given as an object or as a list of pairs. Pairs may have keys of any kind but lists and
objects, and numbers that are equal are one key; only texts serve for look-ups.
-/
namespace TypedVocabulary

abbrev Table := List (Json × Json)

namespace Table

def ofMembers (members : List (String × Json)) : Table :=
  members.map fun (key, value) => (.str key, value)

def find? (key : String) (t : Table) : Option Json := KeyedList.value? t (.str key)

/-- The entry that a pair stands for. -/
def entry (v : Json) : Attempt (Json × Json) := do
  match ← v.visit with
  | [key, value] => if key.hashable then return (key, value) else Attempt.wrongOperand
  | _ => Attempt.outOfDomain

/-- An object, or pairs in which a later one replaces an earlier one. -/
def read : Json → Attempt Table
  | .obj members => .ok (ofMembers members)
  | v => do
    let pairs ← (← v.visit).mapM entry
    return KeyedList.putAll [] pairs

/-- In an object every key is a text, by which other keys are written as they would be as values. -/
def keyText : Json → String
  | .str s => s
  | v => v.write

def toMembers (t : Table) : List (String × Json) := t.map fun (key, value) => (keyText key, value)

end Table
end TypedVocabulary
