import TypedVocabulary.Classes.TypeExpr
import TypedVocabulary.Naming.Sanitizer
import TypedVocabulary.Schema.Lookup
import TypedVocabulary.Settings.Basic

/-! # Resolution of references

A reference becomes a type by the first of these that knows it: built-in scalars, enumerations by
compact key, models by short name, and the foundation vocabulary. What none of them knows is a
fault, except in a vocabulary extension: there it counts as a foundation type, with a notice.
-/
namespace TypedVocabulary

structure Resolver where
  tables : LookupTables
  settings : Settings

namespace ScalarKind

def typeExpr : ScalarKind → TypeExpr
  | boolean => .plain "bool" true .scalar
  | dateTime => .plain "DateTimeOffset" true .scalar
  | time => .plain "DateTimeOffset" true .scalar
  | integer => .plain "int" true .scalar
  | float => .plain "decimal" true .scalar
  | number => .plain "decimal" true .scalar
  | date => .plain "string" false .scalar
  | text => .plain "string" false .scalar
  | duration => .plain "TimeSpan" true .scalar
  | url => .plain "Uri" false .scalar
  | property => .plain "Uri" false .scalar

end ScalarKind

namespace Resolver

def foundationType (r : Resolver) (shortName : String) (nullable : Bool) (kind : TypeKind) :
    TypeExpr :=
  ⟨.str (typeName shortName), r.settings.foundationNamespace, nullable, kind, [], []⟩

/-- Lists hold elements that are not nullable. -/
def listOf (r : Resolver) (element : TypeExpr) : TypeExpr :=
  ⟨r.settings.listType, .null, false, .list, [element.asNonNullable], []⟩

def unionOf (r : Resolver) (members : List TypeExpr) : TypeExpr :=
  ⟨r.settings.unionType, .null, false, .union, members, []⟩

def unverifiedNotice (r : Resolver) (shortName compactKey : String) : String :=
  "Extension referenced unverified " ++ r.settings.foundationNamespace.display ++ " type: " ++
    shortName ++ " (" ++ compactKey ++ ")"

/-- The type of a reference apart from being a list. -/
def resolveBase (r : Resolver) (ref : TypeReference) (isExtension : Bool) : Attempt TypeExpr := do
  let shortName := ref.shortName
  let key ← r.tables.vocabulary.compact ref.uri
  match ScalarKind.ofShortName? shortName with
  | some kind => return kind.typeExpr
  | none =>
    match r.tables.enum? key with
    | some entry =>
      if entry.isExternal then return r.foundationType shortName true .enumeration
      else return .plain (typeName shortName) true .enumeration
    | none =>
      if r.tables.hasModel shortName then return .plain (typeName shortName) false .model
      else if ← r.tables.vocabulary.isFoundation (.str key) then
        return r.foundationType shortName true .foundation
      else if isExtension then
        return (r.foundationType shortName false .foundation).withNotice
          (r.unverifiedNotice shortName key)
      else throw (.resolution (.unresolvedType shortName key))

def resolvePure (r : Resolver) (ref : TypeReference) (isExtension : Bool) : Attempt TypeExpr := do
  let base ← r.resolveBase ref isExtension
  return if ref.isArray then r.listOf base else base

def resolve (r : Resolver) (ref : TypeReference) (isExtension : Bool) : Logged TypeExpr := do
  let type ← r.resolvePure ref isExtension
  type.allNotices.forM (Logged.write .warning Log.typesSource)
  return type

/-- One admissible type stands for itself; several make a union in their order. -/
def combine (r : Resolver) : List TypeExpr → TypeExpr
  | [type] => type
  | types => r.unionOf types

def compose (r : Resolver) (f : Field) (isExtension : Bool) : Logged TypeExpr := do
  if f.references.isEmpty then
    throw (.resolution (.emptyUnion f.fieldName))
  let types ← f.references.mapM fun ref => r.resolve ref isExtension
  return r.combine types

end Resolver
end TypedVocabulary
