import TypedVocabulary.Classes.Compile
import TypedVocabulary.Classes.SourceText
import TypedVocabulary.Generation.Backend

/-! # The .NET backend

Classes go to one directory and enumerations to another. Enumerations of the foundation vocabulary
are left out, since the foundation library has them.
-/
namespace TypedVocabulary.DotNet

def allDistinct {α : Type} [BEq α] : List α → Bool
  | [] => true
  | x :: xs => !xs.contains x && allDistinct xs

/-- Fields that would be serialized at one position, or share a property name. -/
def modelWarnings (m : Model) : Attempt (List String) := do
  let orders := (m.fields.filter fun f => !f.obsolete).map Field.compiledOrder
  let names ← m.fields.mapM fun f => f.fieldName.asOperand.map typeName
  return (if allDistinct orders then []
      else ["Model " ++ m.type.display ++ " has duplicate field orders"]) ++
    if allDistinct names then []
    else ["Model " ++ m.type.display ++ " has fields that map to the same property name"]

/-- Templates that are added in place of the built-in layouts have to be texts. -/
def checkTemplates (templates : TemplateStore) : Attempt Unit := do
  let _ ← templates.text? SourceText.classTemplate
  let _ ← templates.text? SourceText.enumTemplate

def validate (templates : TemplateStore) (s : SchemaSet) : Attempt (List String) := do
  let warnings := s.emptinessWarnings ++ (← s.models.mapM modelWarnings).flatten
  checkTemplates templates
  return warnings

def compile (settings : Settings) (schema : SchemaSet) : Logged (List Compilation) := do
  let tables ← LookupTables.build schema (← settings.vocabulary)
  Resolver.compileSchema ⟨tables, settings⟩ schema settings.maxWorkers

def renderDefinition (settings : Settings) (templates : TemplateStore) (files : GeneratedFiles) :
    Definition → Logged GeneratedFiles
  | .ofClass c => do
    let text ← SourceText.ofClass settings templates c
    return KeyedList.put (SourceText.classPath c) text files
  | .ofEnum e => do
    if e.isExternal then
      Logged.write .debug Log.rendererSource ("Skipping foundation enum " ++ e.type.display)
      return files
    else
      let text ← SourceText.ofEnum settings templates e
      return KeyedList.put (SourceText.enumPath e) text files

/-- Failed outcomes are passed over. -/
def renderOne (settings : Settings) (templates : TemplateStore) (files : GeneratedFiles)
    (c : Compilation) : Logged GeneratedFiles :=
  match c.outcome with
  | .ok (some d) => renderDefinition settings templates files d
  | _ => pure files

def render (settings : Settings) (templates : TemplateStore) (results : List Compilation) :
    Logged GeneratedFiles :=
  results.foldlM (renderOne settings templates) []

def backend : Backend where
  className := "DotNetGenerator"
  moduleName := "vocab_codegen.languages.dotnet.generator"
  language := "dotnet"
  extension := ".cs"
  dirs := ["/models/", "/enums/"]
  accept := fun s => do let _ ← SourceText.Converters.ofSettings s
  validate := validate
  compile := compile
  render := render

end TypedVocabulary.DotNet
