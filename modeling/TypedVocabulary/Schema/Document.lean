import TypedVocabulary.Schema.Basic
import TypedVocabulary.Log

/-! # Schema documents

Models, enumerations and the fields of a model come as an object keyed by name or as a list of
objects that carry their name. Reading goes through a document in its order and stops at the first
fault.
-/
namespace TypedVocabulary.Document

open Json (field find?)

/-- A text is one line, a list gives a line per item. -/
def readLines : Json → Attempt (List String)
  | .null => .ok []
  | .str s => .ok [s]
  | .arr items => .ok (items.map Json.display)
  | v => .error (.schema (.invalidDescription v))

def readReference : Json → Attempt (Option TypeReference)
  | .null => .ok none
  | v => return some (← TypeReference.parse v)

/-- A text is a single reference. -/
def readReferences : Json → Attempt (List TypeReference)
  | .null => .ok []
  | .str s => return [← TypeReference.parse (.str s)]
  | v => do (← v.visit).mapM TypeReference.parse

/-- Zero when it is not given; truth values and doubles are no orders. -/
def readOrder (name : Json) (members : List (String × Json)) : Attempt Int :=
  match find? "order" members with
  | none => .ok 0
  | some (.int n) => .ok n
  | some v => .error (.schema (.nonIntegerOrder name v))

/-- The name of the entry serves where the object has none. -/
def readField (data entryName : Json) : Attempt Field :=
  match data with
  | .obj ms => do
    let name := (field ms "fieldName").orElse entryName
    if !name.truthy then throw (.schema .fieldWithoutName)
    let order ← readOrder name ms
    let requiredType ← readReference (field ms "requiredType")
    let alternativeTypes ← readReferences (field ms "alternativeTypes")
    let model ← readReference (field ms "model")
    let alternativeModels ← readReferences (field ms "alternativeModels")
    let description ← readLines (field ms "description")
    return {
      fieldName := name
      order
      requiredType
      alternativeTypes
      model
      alternativeModels
      memberName := field ms "memberName"
      extensionPrefix := field ms "extensionPrefix"
      obsolete := (field ms "obsolete").truthy
      override := (field ms "override").truthy
      derivedFromSchema := (field ms "derivedFromSchema").truthy
      description
      sample := field ms "example" }
  | _ => .error (.schema (.fieldNotObject entryName))

def readFields (type : Json) (members : List (String × Json)) : Attempt (List Field) :=
  match find? "fields" members with
  | none => .ok []
  | some (.obj fs) => fs.mapM fun (name, data) => readField data (.str name)
  | some (.arr fs) => fs.mapM fun data => readField data .null
  | some _ => .error (.schema (.invalidFields type))

def readModel (data entryName : Json) : Attempt Model :=
  match data with
  | .obj ms => do
    let type := (field ms "type").orElse entryName
    if !type.truthy then throw (.schema .modelWithoutType)
    let fields ← readFields type ms
    let description ← readLines (field ms "description")
    return {
      type
      fields
      subclassOf := field ms "subClassOf"
      derivedFrom := field ms "derivedFrom"
      description }
  | _ => .error (.schema (.modelNotObject entryName))

def readEnum (data entryName : Json) : Attempt Enumeration :=
  match data with
  | .obj ms => do
    let type := (field ms "type").orElse entryName
    if !type.truthy then throw (.schema .enumWithoutType)
    if !(field ms "namespace").truthy then throw (.schema (.enumWithoutNamespace type))
    let values ← ((find? "values" ms).getD (.arr [])).visit
    let comment ← readLines (field ms "comment")
    return {
      type
      «namespace» := field ms "namespace"
      values
      comment
      extensionPrefix := field ms "extensionPrefix" }
  | _ => .error (.schema (.enumNotObject entryName))

def readCollection {α : Type} (read : Json → Json → Attempt α) (kind : String) :
    Json → Attempt (List α)
  | .null => .ok []
  | .obj entries => entries.mapM fun (name, data) => read data (.str name)
  | .arr entries => entries.mapM fun data => read data .null
  | _ => .error (.schema (.invalidCollection kind))

def readSchema (document : Json) : Attempt SchemaSet :=
  match document with
  | .obj ms => do
    if (find? "models" ms).isNone then throw (.schema .documentWithoutModels)
    let models ← readCollection readModel "models" (field ms "models")
    let enums ← readCollection readEnum "enums" (field ms "enums")
    return ⟨models, enums⟩
  | _ => .error (.schema .documentNotObject)

/-- Reads a document and records what it holds. -/
def parse (document : Json) : Logged SchemaSet := do
  let schema ← readSchema document
  Logged.write .info Log.schemaSource
    s!"Parsed schema: {schema.models.length} models, {schema.enums.length} enums"
  return schema

end TypedVocabulary.Document
