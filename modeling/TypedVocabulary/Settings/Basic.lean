import TypedVocabulary.Vocabulary.Namespaces

/-! # Settings

The settings of a run. A setting keeps the value it was given: none is checked when it is read, and
each use says what it makes of a value of another kind.
-/
namespace TypedVocabulary

structure Settings where
  outputDir : Json
  «namespace» : Json
  foundationNamespace : Json
  foundationRoot : Json
  unionType : Json
  listType : Json
  vocabularyNamespaces : Json
  localPrefix : Json
  foundationPrefix : Json
  foundationTypes : Json
  docsUrlPrefix : Json
  addComments : Json
  addCodeExamples : Json
  allowPartial : Json
  maxWorkers : Json
  custom : Json

namespace Settings

/-- The settings under their names, the custom ones last. -/
def toTable (s : Settings) : List (String × Json) :=
  [("output_dir", s.outputDir),
   ("namespace", s.namespace),
   ("foundation_namespace", s.foundationNamespace),
   ("foundation_root", s.foundationRoot),
   ("union_type", s.unionType),
   ("list_type", s.listType),
   ("vocabulary_namespaces", s.vocabularyNamespaces),
   ("local_prefix", s.localPrefix),
   ("foundation_prefix", s.foundationPrefix),
   ("foundation_types", s.foundationTypes),
   ("docs_url_prefix", s.docsUrlPrefix),
   ("add_comments", s.addComments),
   ("add_code_examples", s.addCodeExamples),
   ("allow_partial", s.allowPartial),
   ("max_workers", s.maxWorkers),
   ("custom", s.custom)]

def names : List String :=
  ["output_dir", "namespace", "foundation_namespace", "foundation_root", "union_type",
   "list_type", "vocabulary_namespaces", "local_prefix", "foundation_prefix", "foundation_types",
   "docs_url_prefix", "add_comments", "add_code_examples", "allow_partial", "max_workers",
   "custom"]

def ofTable (table : List (String × Json)) : Settings :=
  let get (name : String) (fallback : Json) : Json := (Json.find? name table).getD fallback
  { outputDir := get "output_dir" .null
    «namespace» := get "namespace" (.str "OpenActive.NET")
    foundationNamespace := get "foundation_namespace" (.str "Schema.NET")
    foundationRoot := get "foundation_root" (.str "JsonLdObject")
    unionType := get "union_type" (.str "SingleValues")
    listType := get "list_type" (.str "List")
    vocabularyNamespaces := get "vocabulary_namespaces" (.obj Vocabulary.defaultNamespaces)
    localPrefix := get "local_prefix" (.str "oa")
    foundationPrefix := get "foundation_prefix" (.str "schema")
    foundationTypes := get "foundation_types" .null
    docsUrlPrefix :=
      get "docs_url_prefix" (.str "https://developer.openactive.io/data-model/types/")
    addComments := get "add_comments" (.bool true)
    addCodeExamples := get "add_code_examples" (.bool true)
    allowPartial := get "allow_partial" (.bool false)
    maxWorkers := get "max_workers" .null
    custom := get "custom" (.obj []) }

def default : Settings := ofTable []

def vocabulary (s : Settings) : Attempt Vocabulary :=
  Vocabulary.ofSettings s.vocabularyNamespaces s.localPrefix s.foundationPrefix s.foundationTypes

/-- A custom setting; the custom settings have to be an object. -/
def customValue (s : Settings) (name : String) (fallback : Json) : Attempt Json :=
  match s.custom with
  | .obj members => .ok ((Json.find? name members).getD fallback)
  | _ => Attempt.lacksOperation

end Settings
end TypedVocabulary
