import TypedVocabulary.Vocabulary.Namespaces

/-! # Models, fields and enumerations

The definitions of a vocabulary as a document declares them. Names, types and namespaces that the
document format leaves unchecked are kept as values; only what is a text can be worked with later.
-/
namespace TypedVocabulary

structure Field where
  fieldName : Json
  order : Int
  requiredType : Option TypeReference
  alternativeTypes : List TypeReference
  model : Option TypeReference
  alternativeModels : List TypeReference
  memberName : Json
  extensionPrefix : Json
  obsolete : Bool
  override : Bool
  derivedFromSchema : Bool
  description : List String
  sample : Json

namespace Field

def isExtension (f : Field) : Bool := f.extensionPrefix.truthy

def wireName (f : Field) : Json := f.memberName.orElse f.fieldName

/-- Every admissible type, in the order of union arguments. -/
def references (f : Field) : List TypeReference :=
  f.alternativeTypes ++ f.requiredType.toList ++ f.alternativeModels ++ f.model.toList

end Field

structure Model where
  type : Json
  fields : List Field
  subclassOf : Json
  derivedFrom : Json
  description : List String

namespace Model

def shortName (m : Model) : Attempt String := return Reference.shortName (← m.type.asText)

def field? (m : Model) (name : Json) : Option Field := m.fields.find? (·.fieldName.equals name)

end Model

structure Enumeration where
  type : Json
  «namespace» : Json
  values : List Json
  comment : List String
  extensionPrefix : Json

namespace Enumeration

def shortName (e : Enumeration) : Attempt String :=
  return Reference.shortName (← e.type.asText)

def uri (e : Enumeration) : Attempt String :=
  return e.namespace.display ++ (← e.shortName)

end Enumeration

structure SchemaSet where
  models : List Model
  enums : List Enumeration

def SchemaSet.model? (s : SchemaSet) (name : Json) : Attempt (Option Model) :=
  search s.models
where
  search : List Model → Attempt (Option Model)
    | [] => .ok none
    | m :: rest => do
      if Json.str (← m.shortName) == name then return some m else search rest

end TypedVocabulary
