import TypedVocabulary.Schema.Basic
import TypedVocabulary.Log

/-! # Lookup tables

References are resolved against tables that are built once from all definitions of a run:
enumerations by compact key and models by short name. A later enumeration of the same key replaces
the earlier one.
-/
namespace TypedVocabulary

structure EnumEntry where
  «namespace» : Json
  isExternal : Bool

structure LookupTables where
  enums : List (String × EnumEntry)
  models : List String
  vocabulary : Vocabulary

namespace LookupTables

def enumEntry (v : Vocabulary) (e : Enumeration) : Attempt (String × EnumEntry) := do
  let key ← v.compact (← e.uri)
  let isExternal ← v.isFoundationNamespace e.namespace
  return (key, ⟨e.namespace, isExternal⟩)

def readTables (s : SchemaSet) (v : Vocabulary) : Attempt LookupTables := do
  let entries ← s.enums.mapM (enumEntry v)
  let names ← s.models.mapM Model.shortName
  return ⟨KeyedList.putAll [] entries, names.eraseDups, v⟩

def build (s : SchemaSet) (v : Vocabulary) : Logged LookupTables := do
  let tables ← readTables s v
  Logged.write .debug Log.schemaSource
    s!"Built lookup tables: {tables.enums.length} enums, {tables.models.length} models"
  return tables

def enum? (t : LookupTables) (key : String) : Option EnumEntry :=
  KeyedList.value? t.enums key

def hasModel (t : LookupTables) (name : String) : Bool := t.models.contains name

end LookupTables
end TypedVocabulary
