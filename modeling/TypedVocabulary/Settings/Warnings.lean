import TypedVocabulary.Json.Membership
import TypedVocabulary.Settings.Basic
import TypedVocabulary.Text.Identifier

/-! # Warnings about settings

Names that are no identifiers, prefixes that no namespace declares, and a number of workers below
one are reported and not refused.
-/
namespace TypedVocabulary.Settings

def isIdentifier (s : String) : Bool := Text.isIdentifier s.toList

def isDottedName (s : String) : Bool := (Text.splitOn '.' s.toList).all Text.isIdentifier

def nameWarning (valid : String → Bool) (name : String) (value : Json) : Attempt (List String) := do
  let good ← if value.truthy then value.asText.map valid else pure false
  return if good then [] else ["Invalid " ++ name ++ ": " ++ value.literal]

def prefixWarning (s : Settings) (name : String) (value : Json) : Attempt (List String) :=
  return if ← value.occursIn s.vocabularyNamespaces then []
    else ["Unknown " ++ name ++ ": " ++ value.display]

def compareNumber (value : Json) (n : Int) : Attempt (Option Ordering) :=
  match value.number? with
  | some (.inl m) => .ok (some (compare m n))
  | some (.inr x) => .ok (x.compareInt n)
  | none => Attempt.wrongOperand

def workersWarning (value : Json) : Attempt (List String) :=
  match value with
  | .null => .ok []
  | v => return if (← compareNumber v 1) = some .lt then ["Invalid max_workers: " ++ v.display]
      else []

def warnings (s : Settings) : Attempt (List String) := do
  let names ← nameWarning isDottedName "namespace" s.namespace
  let foundations ← nameWarning isDottedName "foundation_namespace" s.foundationNamespace
  let roots ← nameWarning isIdentifier "foundation_root" s.foundationRoot
  let unions ← nameWarning isIdentifier "union_type" s.unionType
  let lists ← nameWarning isIdentifier "list_type" s.listType
  let locals ← s.prefixWarning "local_prefix" s.localPrefix
  let bases ← s.prefixWarning "foundation_prefix" s.foundationPrefix
  let workers ← workersWarning s.maxWorkers
  return names ++ foundations ++ roots ++ unions ++ lists ++ locals ++ bases ++ workers

end TypedVocabulary.Settings
