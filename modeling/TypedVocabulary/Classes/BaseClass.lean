import TypedVocabulary.Classes.TypeExpr
import TypedVocabulary.Naming.Sanitizer
import TypedVocabulary.Settings.Basic

/-! # Base classes

Each class has exactly one base. An explicit parent comes first. A model that is only derived from
a foundation type takes that type, and one derived from elsewhere takes the root of the foundation
library.
-/
namespace TypedVocabulary.BaseClass

def root (s : Settings) : TypeExpr :=
  ⟨s.foundationRoot, s.foundationNamespace, false, .foundation, [], []⟩

def named (v : Vocabulary) (s : Settings) (value : Json) : Attempt TypeExpr := do
  let name := typeName (Reference.shortName (← value.asText))
  if ← v.isFoundation value then
    return ⟨.str name, s.foundationNamespace, false, .foundation, [], []⟩
  else return .plain name false .model

def resolve (v : Vocabulary) (s : Settings) (type subclassOf derivedFrom : Json) :
    Attempt TypeExpr := do
  if subclassOf.truthy then named v s subclassOf
  else if derivedFrom.truthy then
    if ← v.isFoundation derivedFrom then named v s derivedFrom else return root s
  else throw (.resolution (.missingBase type))

def hasMembers (s : Settings) (base : TypeExpr) : Bool := !base.same (root s)

end TypedVocabulary.BaseClass
