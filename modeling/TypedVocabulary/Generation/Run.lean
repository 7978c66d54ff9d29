import TypedVocabulary.Generation.Backend

/-! # Generation runs

A run validates, compiles and renders a schema and reports how it went. Declarations that cannot be
compiled fail the run, unless the settings allow partial output: then they are skipped with a
warning. Faults of resolution and of templates end in a failed report; a misuse ends the run itself.
-/
namespace TypedVocabulary

structure RunMetadata where
  language : String
  extension : String
  modelCount : Nat
  enumCount : Nat
  fileCount : Nat
  failed : List Json

inductive RunOutcome
  | generated (files : GeneratedFiles) (metadata : RunMetadata)
  | failed (message : String) (failure : Failure)

structure RunReport where
  warnings : List String
  errors : List ResolutionError
  outcome : RunOutcome

namespace RunReport

def succeeded (r : RunReport) : Bool :=
  match r.outcome with
  | .generated _ _ => true
  | .failed _ _ => false

def files (r : RunReport) : GeneratedFiles :=
  match r.outcome with
  | .generated files _ => files
  | .failed _ _ => []

end RunReport

namespace Generator

def faultText (e : ResolutionError) : Attempt String := Attempt.ofMisuse e.message

def recordFaults (errors : List ResolutionError) : Logged Unit :=
  errors.forM fun e => do
    Logged.write .error Log.runSource ("Compilation failed: " ++ (← faultText e))

/-- The report of a run that stops at faults, of which it names the first as the cause. -/
def stoppedReport (first : ResolutionError) (others : List ResolutionError)
    (warnings : List String) : Attempt RunReport := do
  let errors := first :: others
  let faults := String.intercalate "; " (← errors.mapM faultText)
  return ⟨warnings, errors, .failed
    s!"Code generation failed for {errors.length} definition(s): {faults}" (.resolution first)⟩

def renderReport (g : Generator) (schema : SchemaSet) (results : List Compilation)
    (errors : List ResolutionError) (warnings : List String) : Logged RunReport := do
  let files ← g.render results
  let metadata : RunMetadata :=
    { language := g.backend.language
      extension := g.backend.extension
      modelCount := schema.models.length
      enumCount := schema.enums.length
      fileCount := files.length
      failed := (results.filter fun c => !c.succeeded).map Compilation.name }
  Logged.write .info Log.runSource
    s!"Generated {files.length} file(s) for {g.backend.language}"
  return ⟨warnings, errors, .generated files metadata⟩

def partialReport (g : Generator) (schema : SchemaSet) (results : List Compilation)
    (errors : List ResolutionError) (warnings : List String) : Logged RunReport := do
  Logged.write .warning Log.runSource s!"Skipping {errors.length} failed definition(s)"
  let texts ← (errors.mapM faultText : Attempt (List String))
  g.renderReport schema results errors (warnings ++ texts.map ("Skipped " ++ ·))

def attemptRun (g : Generator) (schema : SchemaSet) : Logged RunReport := do
  let validation ← g.validate schema
  let results ← g.compile schema
  let errors := results.filterMap Compilation.error?
  let warnings := validation ++ results.flatMap Compilation.notices
  recordFaults errors
  match errors with
  | [] => g.renderReport schema results [] warnings
  | first :: others =>
    if g.settings.allowPartial.truthy then g.partialReport schema results errors warnings
    else stoppedReport first others warnings

/-- The failures that a run reports and does not pass on. -/
def isReported : Failure → Bool
  | .generator _ => true
  | .resolution _ => true
  | .template _ => true
  | _ => false

def run (g : Generator) (schema : SchemaSet) : Logged RunReport :=
  (g.attemptRun schema).recover fun e =>
    if isReported e then do
      let text ← Attempt.ofMisuse e.message
      Logged.write .error Log.runSource ("Code generation failed: " ++ text)
      return ⟨[], [], .failed ("Code generation failed: " ++ text) e⟩
    else throw e

end Generator
end TypedVocabulary
