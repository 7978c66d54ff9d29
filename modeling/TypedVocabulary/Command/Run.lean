import TypedVocabulary.Command.Options
import TypedVocabulary.Command.Session
import TypedVocabulary.Generation.Languages
import TypedVocabulary.Source.Load

/-! # The command

Either the languages are listed, or one of them is shown, or a document is loaded and its classes
are written to a directory or printed. Nothing is written before generation has succeeded. The
command answers with an exit code; failures that it knows are printed and give one.
-/
namespace TypedVocabulary.Command

open Markup (styled)
open Step

def program : String := "vocab-codegen"
def versionText : String := program ++ " 0.1.0"

def registry : Registry := .standard

/-- An empty value counts as none. -/
def given (value : Option String) : Option String := value.filter fun s => !s.isEmpty

/-! ## Languages -/

def orDash (s : String) : String := if s.isEmpty then "-" else s

def joined (names : List String) : String := String.intercalate ", " names

def languageRow (name : String) (d : Registry.Description) : List String :=
  [name, orDash (joined d.aliases), "*" ++ d.generator.backend.extension,
    String.intercalate " " d.generator.backend.dirs]

def listLanguages : Step Nat := do
  let rows ← (registry.languages.mapM fun name => do
    return languageRow name (← registry.describe name) : Attempt (List (List String)))
  showLines (Console.Table.linesOf Console.rounded
    ⟨"Target Languages", ["Name", "Also accepted as", "Writes", "Output folders"], rows⟩)
  print (styled "dim" "Try:" ++ " vocab-codegen models.json -l dotnet -o ./out")
  return 0

/-- Whether a language is known; if it is not, the known ones are printed. -/
def checkLanguage (language : String) : Step Bool := do
  if registry.isSupported language then return true
  else
    print (styled "red" ("✗ No generator for '" ++ language ++ "'.") ++ " Known: " ++
      joined registry.languages ++ " (see --list-languages)")
    return false

def settingRows (s : Settings) : Attempt (List (List String)) := do
  let custom := (← Table.read s.custom).toMembers
  let rows := [("namespace", s.namespace), ("foundation_namespace", s.foundationNamespace),
    ("foundation_root", s.foundationRoot), ("union_type", s.unionType), ("list_type", s.listType),
    ("add_comments", s.addComments), ("allow_partial", s.allowPartial)] ++ Text.sortByKey custom
  return rows.map fun (name, value) => [name, value.display]

def describeLanguage (language : String) : Step Nat := do
  if ← checkLanguage language then
    let d ← (registry.describe language : Attempt Registry.Description)
    let b := d.generator.backend
    showLines (Console.panel b.language (Console.pairLines [("Generator", b.className),
      ("Module", b.moduleName), ("Aliases", orDash (joined d.aliases)),
      ("Extension", b.extension), ("Folders", joined b.dirs)]))
    let rows ← (settingRows d.generator.settings : Attempt (List (List String)))
    showLines (Console.Table.linesOf Console.divided ⟨"Defaults", ["Key", "Value"], rows⟩)
    return 0
  else return 1

/-! ## Settings -/

def overrides (o : Options) : List (String × Json) :=
  ((given o.targetNamespace).map fun s => ("namespace", Json.str s)).toList ++
    (if o.allowPartial then [("allow_partial", .bool true)] else []) ++
    (if o.noComments then [("add_comments", .bool false)] else []) ++
    ((given o.outputDir).map fun s => ("output_dir", Json.str s)).toList

def settingsOf (files : FileTree) (o : Options) (language : String) : Attempt Settings := do
  let language ← (registry.resolve language).mapError .registry
  match Settings.load files (.str language) (.obj (overrides o)) (Json.ofOption o.config) with
  | .error (.config e) => throw (.command e)
  | outcome => outcome

/-! ## Output -/

/-- The directories of a backend below the output directory, also those that stay empty. -/
def makeDirectories (dir : Path) (dirs : List String) : Step Unit :=
  dirs.forM fun d => changeFiles (·.ensureDirectory (dir.append (Path.ofText d).names))

def writeFile (dir : Path) (file : String × String) : Step Unit := do
  let path := dir.append (Path.ofText file.1).names
  changeFiles (·.ensureDirectory path.parent)
  changeFiles (·.write path file.2)

def writeFiles (dir : Path) (dirs : List String) (files : GeneratedFiles) : Step Unit := do
  makeDirectories dir dirs
  (Text.sortByKey files).forM (writeFile dir)
  note .info s!"Wrote {files.length} file(s) to {dir.text}"

def printFile (file : String × String) : Step Unit := do
  print ("\n" ++ styled "green" ("── " ++ file.1 ++ " ──"))
  showLines (Console.croppedSource file.2)

def failedNames (m : RunMetadata) : Attempt String := do
  if m.failed.isEmpty then return "none"
  else return joined (← m.failed.mapM Json.asOperand)

def metadataCells (m : RunMetadata) : Attempt (List (String × String)) :=
  return [("Language", m.language), ("File Extension", m.extension),
    ("Model Count", toString m.modelCount), ("Enum Count", toString m.enumCount),
    ("File Count", toString m.fileCount), ("Failed", ← failedNames m)]

def plainRow (cell : String × String) : Attempt (List String) := do
  return [cell.1, ← Markup.plain cell.2]

def printMetadata (m : RunMetadata) : Step Unit := do
  let cells ← (metadataCells m : Attempt (List (String × String)))
  print ""
  let rows ← (cells.mapM plainRow : Attempt (List (List String)))
  showLines (Console.Table.linesOf Console.ruled
    ⟨"Generation Metadata", ["Property", "Value"], rows⟩)

def bullet (style text : String) : Step Unit := print ("  " ++ styled style "•" ++ " " ++ text)

def printSummary (r : RunReport) (verbose : Bool) : Step Unit := do
  match r.outcome with
  | .generated _ m => if verbose then printMetadata m
  | .failed _ _ => pure ()
  if !r.warnings.isEmpty then
    print ("\n" ++ styled "yellow" "Warnings:")
    r.warnings.forM (bullet "yellow")
    print ""

/-! ## Generation -/

def reportFailure (message : String) (r : RunReport) (verbose : Bool) : Step Nat := do
  print (styled "red" "✗ Code generation failed:" ++ " " ++ message)
  r.errors.forM fun e => do
    bullet "red" (← (Attempt.ofMisuse e.message : Attempt String))
  printSummary r verbose
  return 1

def deliver (o : Options) (b : Backend) (files : GeneratedFiles) : Step Unit :=
  match given o.outputDir with
  | some dir => do
    writeFiles (Path.ofText dir) b.dirs files
    print (styled "green" "✓" ++ s!" Generated {files.length} {b.language} file(s) in " ++
      styled "cyan" dir)
  | none => (Text.sortByKey files).forM printFile

def generate (o : Options) (language : String) (reply : Reply) : Step Nat := do
  let files := (← get).files
  let loaded ← perform (Source.load files reply (Json.ofOption o.file) (Json.ofOption o.url))
  print (styled "dim" ("Loaded " ++ loaded.source))
  let settings ← (settingsOf files o language : Attempt Settings)
  let generator ← (registry.createWith language settings : Attempt Generator)
  let report ← perform (generator.run loaded.schema)
  match report.outcome with
  | .failed message _ => reportFailure message report o.verbose
  | .generated written _ =>
    deliver o generator.backend written
    printSummary report o.verbose
    return 0

def dispatch (o : Options) (reply : Reply) : Step Nat := do
  if o.listLanguages then listLanguages
  else
    match given o.languageInfo with
    | some language => describeLanguage language
    | none =>
      if (given o.file).isNone && (given o.url).isNone then
        print (styled "red" "✗" ++ " Input source required (file or --url)")
        return 1
      else
        match o.language with
        | none => throw (.misuse .lacksOperation)
        | some language =>
          if ← checkLanguage language then generate o language reply else return 1

def isInputFault : Failure → Bool
  | .command _ => true
  | .registry _ => true
  | .load _ => true
  | .fileNotFound _ => true
  | .access e => e.cause = .missing
  | _ => false

def isAccessFault : Failure → Bool
  | .access _ => true
  | _ => false

def answerFailure (e : Failure) : Step Nat := do
  if isInputFault e || isAccessFault e then
    let label := if isInputFault e then "✗ Error:" else "✗ Failed to write output:"
    print (styled "red" label ++ " " ++ (← (Attempt.ofMisuse e.message : Attempt String)))
    return 1
  else throw e

/-- Asking for more output shows more of the log, unless a level is chosen. -/
def threshold (verbose : Bool) (level : Level) : Level :=
  if verbose && level = .warning then .info else level

inductive Ending
  | exit (code : Nat)
  | crash (e : Failure)
  | help
  | version
  | usage (e : UsageError)

structure Outcome where
  ending : Ending
  output : List String
  files : FileTree

def runOptions (o : Options) (files : FileTree) (reply : Reply) : Outcome :=
  match o.logLevel with
  | none => ⟨.crash (.misuse .wrongOperand), [], files⟩
  | some level =>
    let (result, s) :=
      (tryCatch (dispatch o reply) answerFailure : Step Nat).run.run
        ⟨threshold o.verbose level, [], files⟩
    match result with
    | .ok code => ⟨.exit code, s.output, s.files⟩
    | .error e => ⟨.crash e, s.output, s.files⟩

/-- Runs a command line on files, with the reply that a request would get. -/
def run (args : List String) (files : FileTree) (reply : Reply) : Outcome :=
  match Options.read args with
  | .ok o => runOptions o files reply
  | .error .help => ⟨.help, [], files⟩
  | .error .version => ⟨.version, [versionText], files⟩
  | .error (.usage e) => ⟨.usage e, [], files⟩

end TypedVocabulary.Command
