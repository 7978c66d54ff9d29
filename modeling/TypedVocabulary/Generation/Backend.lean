import TypedVocabulary.Classes.Definition
import TypedVocabulary.Log
import TypedVocabulary.Schema.Basic
import TypedVocabulary.Settings.Basic
import TypedVocabulary.Template

/-! # Backends

A backend generates code for one language: it warns about a schema, compiles it to definitions and
renders these to files. A generator is a backend with its settings and templates.
-/
namespace TypedVocabulary

/-- Generated texts by path, in the order in which the paths first came up. -/
abbrev GeneratedFiles := List (String × String)

structure Backend where
  className : String
  moduleName : String
  language : String
  extension : String
  dirs : List String
  /-- Settings that the backend cannot work with are refused at once. -/
  accept : Settings → Attempt Unit
  validate : TemplateStore → SchemaSet → Attempt (List String)
  compile : Settings → SchemaSet → Logged (List Compilation)
  render : Settings → TemplateStore → List Compilation → Logged GeneratedFiles

structure Generator where
  backend : Backend
  settings : Settings
  templates : TemplateStore

namespace Generator

def create (b : Backend) (s : Settings) : Attempt Generator := do
  b.accept s
  return ⟨b, s, .empty⟩

def addTemplate (g : Generator) (name : String) (text : Json) : Generator :=
  ⟨g.backend, g.settings, g.templates.add name text⟩

def validate (g : Generator) (schema : SchemaSet) : Attempt (List String) :=
  g.backend.validate g.templates schema

def compile (g : Generator) (schema : SchemaSet) : Logged (List Compilation) :=
  g.backend.compile g.settings schema

def render (g : Generator) (results : List Compilation) : Logged GeneratedFiles :=
  g.backend.render g.settings g.templates results

def generate (g : Generator) (schema : SchemaSet) : Logged GeneratedFiles := do
  let results ← g.compile schema
  match results.findSome? Compilation.error? with
  | some e => throw (.resolution e)
  | none => g.render results

end Generator

/-- Definitions without content are worth a warning in every language. -/
def SchemaSet.emptinessWarnings (s : SchemaSet) : List String :=
  (s.models.filter (·.fields.isEmpty)).map
      (fun m => "Model '" ++ m.type.display ++ "' has no fields") ++
    (s.enums.filter (·.values.isEmpty)).map
      fun e => "Enum '" ++ e.type.display ++ "' has no values"

end TypedVocabulary
