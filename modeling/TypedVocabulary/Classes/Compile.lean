import TypedVocabulary.Classes.BaseClass
import TypedVocabulary.Classes.Definition
import TypedVocabulary.Classes.Resolution
import TypedVocabulary.Settings.Warnings

/-! # Compilation

Every model is compiled on its own against the shared tables: its base, a name for each property,
then its fields in order. A model that cannot be resolved gives a failed outcome and leaves the
others alone. Names of disinherited properties are fixed first, since they have to match the
inherited members; all others are made unique after them.
-/
namespace TypedVocabulary

/-- Properties of extensions come after all others. -/
def extensionOffset : Int := 1000

def Field.compiledOrder (f : Field) : Int :=
  f.order + if f.isExtension then extensionOffset else 0

namespace Resolver

def requiresTime (r : Resolver) (f : Field) : Attempt Bool :=
  match f.requiredType with
  | none => .ok false
  | some ref =>
    if !ref.isArray && ScalarKind.ofShortName? ref.shortName = some .time then
      r.tables.vocabulary.isFoundationNamespace (.str ref.uri)
    else .ok false

def converterFor (r : Resolver) (f : Field) (type : TypeExpr) : Attempt Converter := do
  if type.same ScalarKind.duration.typeExpr then return .duration
  else if ← r.requiresTime f then return .time
  else if type.isUnion then return .taggedUnion
  else return .none

/-- The names of extension properties are their own, so they hide nothing. -/
def shadowingFor (f : Field) (hasBase : Bool) : Shadowing :=
  if !f.isExtension && hasBase && (f.derivedFromSchema || f.override) then .new else .none

/-- Faults of a field are located at it. -/
def composeLocated (r : Resolver) (f : Field) : Logged TypeExpr :=
  let composed := r.compose f f.isExtension
  match composed.outcome with
  | .error (.resolution e) =>
    ⟨composed.entries, .error (.resolution (e.located .null f.fieldName))⟩
  | _ => composed

/-- A field with the property name that was chosen for it, or with its own in upper camel case. -/
def compileField (r : Resolver) (f : Field) (hasBase : Bool) (chosen : String) :
    Logged Property := do
  let type ← r.composeLocated f
  let name ← if chosen.isEmpty then f.fieldName.asOperand.map typeName else pure chosen
  let converter ← if f.obsolete then pure .none else r.converterFor f type
  return {
    fieldName := f.fieldName
    name
    type
    wireName := if f.obsolete then .null else f.wireName
    order := if f.obsolete then none else some f.compiledOrder
    shadowing := if f.obsolete then .override else shadowingFor f hasBase
    disinherited := f.obsolete
    converter
    isExtension := f.isExtension
    description := f.description
    sample := f.sample
    requiredType := f.requiredType.map TypeReference.text
    notices := type.allNotices }

end Resolver

/-! ## Property names -/

namespace MemberNames

/-- Names by field name; a field name that comes again replaces the name and keeps its place. -/
abbrev Table := List (Json × String)

/-- Only hashable field names can stand in a table. -/
def put (field : Json) (name : String) (t : Table) : Attempt Table :=
  if field.hashable then .ok (KeyedList.put field name t) else Attempt.wrongOperand

def name? (t : Table) (field : Json) : Option String := KeyedList.value? t field

def fixOne (state : Sanitizer × Table) (f : Field) : Attempt (Sanitizer × Table) :=
  if f.obsolete then do
    let name := typeName (← f.fieldName.asOperand)
    return (state.1.use name, ← put f.fieldName name state.2)
  else .ok state

def assignOne (state : Sanitizer × Table) (f : Field) : Attempt (Sanitizer × Table) :=
  if f.obsolete then .ok state
  else do
    let (name, scope) ← state.1.sanitize f.fieldName .upperCamel "_"
    return (scope, ← put f.fieldName name state.2)

def assign (m : Model) (className : String) : Attempt Table := do
  let start := ((Sanitizer.ofRules Keyword.rules).use className, [])
  let fixed ← m.fields.foldlM fixOne start
  let assigned ← m.fields.foldlM assignOne fixed
  return assigned.2

end MemberNames

namespace Resolver

def compileClass (r : Resolver) (m : Model) : Logged ClassDefinition := do
  let base ←
    BaseClass.resolve r.tables.vocabulary r.settings m.type m.subclassOf m.derivedFrom
  let hasBase := BaseClass.hasMembers r.settings base
  let name := typeName (← m.shortName)
  let names ← MemberNames.assign m name
  let properties ← m.fields.mapM fun f =>
    r.compileField f hasBase ((MemberNames.name? names f.fieldName).getD "")
  return { type := m.type, name, base, properties, hasBaseClass := hasBase,
           description := m.description }

def announceClass (c : ClassDefinition) : Logged Unit :=
  Logged.writeLazily .debug Log.compilerSource do
    return "Compiled model " ++ c.type.display ++ ": base " ++ (← c.base.text) ++ ", " ++
      toString c.properties.length ++ " fields"

/-- A fault of resolution is an outcome, located at the model; any other ends the run. -/
def compileModel (r : Resolver) (m : Model) : Logged Compilation := do
  match ← (r.compileClass m).settled with
  | .ok c =>
    announceClass c
    return ⟨m.type, c.notices, .ok (some (.ofClass c))⟩
  | .error (.resolution e) => return ⟨m.type, [], .error (e.located m.type .null)⟩
  | .error e => throw e

def compileMember (value : Json) : Attempt EnumMember := do
  let text ← value.asText
  return ⟨typeName (Reference.shortName text), text⟩

def compileEnum (r : Resolver) (e : Enumeration) : Attempt EnumDefinition := do
  let members ← e.values.mapM compileMember
  let name := typeName (← e.shortName)
  let isExternal ← r.tables.vocabulary.isFoundationNamespace e.namespace
  return ⟨e.type, name, e.namespace, members, e.comment, isExternal⟩

/-- The number of workers does not change any outcome; it has to be comparable with one. -/
def checkWorkers (workers : Json) : Attempt Unit := do
  if workers.truthy then
    let _ ← Settings.compareNumber workers 1
    return ()
  else return ()

/-- The outcomes of all declarations: enumerations first, then models, in their order. -/
def compileSchema (r : Resolver) (s : SchemaSet) (workers : Json) : Logged (List Compilation) := do
  let enums ← s.enums.mapM fun e => do
    let d ← r.compileEnum e
    return (⟨e.type, [], .ok (some (.ofEnum d))⟩ : Compilation)
  checkWorkers workers
  let models ← s.models.mapM r.compileModel
  let results := enums ++ models
  let failed := (results.filter fun c => !c.succeeded).length
  Logged.write .info Log.compilerSource
    s!"Compiled {results.length} definition(s), {failed} failed"
  return results

end Resolver
end TypedVocabulary
