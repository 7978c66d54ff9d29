import TypedVocabulary.Command.Flag
import TypedVocabulary.Log

/-! # Options

Arguments are read one by one. A flag sets an option, the first plain argument is the file of the
document, and what remains is refused at the end. A request for help or for the version ends reading
at once.
-/
namespace TypedVocabulary.Command

/-- A language or a level is absent when the value of its flag is a lone double dash. -/
structure Options where
  file : Option String
  url : Option String
  language : Option String
  outputDir : Option String
  config : Option String
  targetNamespace : Option String
  allowPartial : Bool
  noComments : Bool
  timeout : Int
  listLanguages : Bool
  languageInfo : Option String
  verbose : Bool
  logLevel : Option Level

inductive Stop
  | help
  | version
  | usage (e : UsageError)

namespace Options

def default : Options :=
  { file := none
    url := none
    language := some "dotnet"
    outputDir := none
    config := none
    targetNamespace := none
    allowPartial := false
    noComments := false
    timeout := 30
    listLanguages := false
    languageInfo := none
    verbose := false
    logLevel := some .warning }

def levelLabels : List String :=
  [Level.debug, Level.info, Level.warning, Level.error, Level.critical].map Level.label

def setSwitch (o : Options) : Flag → Except Stop Options
  | .help => .error .help
  | .version => .error .version
  | .allowPartial => .ok { o with allowPartial := true }
  | .noComments => .ok { o with noComments := true }
  | .listLanguages => .ok { o with listLanguages := true }
  | .verbose => .ok { o with verbose := true }
  | _ => .ok o

def setUrl (o : Options) (value : String) : Except Stop Options :=
  if o.file.isSome then .error (.usage (.conflict Flag.url.label "file"))
  else .ok { o with url := some value }

def setFile (o : Options) (value : String) : Except Stop Options :=
  if o.url.isSome then .error (.usage (.conflict "file" Flag.url.label))
  else .ok { o with file := some value }

/-- A later value replaces an earlier one. -/
def setText (o : Options) (value : String) : Flag → Except Stop Options
  | .url => o.setUrl value
  | .language => .ok { o with language := some value }
  | .outputDir => .ok { o with outputDir := some value }
  | .config => .ok { o with config := some value }
  | .targetNamespace => .ok { o with targetNamespace := some value }
  | .languageInfo => .ok { o with languageInfo := some value }
  | .timeout =>
    match Text.wholeNumber? value with
    | some n => .ok { o with timeout := n }
    | none => .error (.usage (.notInteger .timeout value))
  | .logLevel =>
    match Level.ofLabel? value with
    | some level => .ok { o with logLevel := some level }
    | none => .error (.usage (.notChoice .logLevel value levelLabels))
  | _ => .ok o

/-- A flag that is given without a value: most count as given with an empty one. -/
def setEmpty (o : Options) : Flag → Except Stop Options
  | .language => .ok { o with language := none }
  | .logLevel => .ok { o with logLevel := none }
  | .timeout => .ok o
  | f => o.setText "" f

/-- A lone double dash is no value. -/
def setValue (o : Options) (value : String) (f : Flag) : Except Stop Options :=
  if value = "--" then o.setEmpty f else o.setText value f

end Options

/-! ## Flags written together -/

inductive Setting
  | switch (f : Flag)
  | value (f : Flag) (s : String)

structure Cluster where
  settings : List Setting
  waiting : Option Flag

namespace Cluster

def ofBare (passed : List Setting) (f : Flag) : Cluster :=
  if f.takesValue then ⟨passed, some f⟩ else ⟨passed ++ [.switch f], none⟩

/-- Characters behind a flag are its value, or more flags of one letter. -/
def ofText (passed : List Setting) (f : Flag) (short : Bool) :
    List Char → Except UsageError Cluster
  | [] => if f.takesValue then .ok ⟨passed ++ [.value f ""], none⟩ else .error (.extraValue f "")
  | c :: cs =>
    let value := String.ofList (c :: cs)
    if f.takesValue then .ok ⟨passed ++ [.value f value], none⟩
    else if !short then .error (.extraValue f value)
    else
      match Flag.ofSpelling? (String.ofList ['-', c]) with
      | none => .error (.extraValue f value)
      | some next =>
        if cs.isEmpty then .ok (ofBare (passed ++ [.switch f]) next)
        else ofText (passed ++ [.switch f]) next true cs

def ofFlag (f : Flag) (short : Bool) : Option (List Char) → Except UsageError Cluster
  | none => .ok (ofBare [] f)
  | some cs => ofText [] f short cs

end Cluster

/-! ## Reading -/

/-- How far the file has been read. A separator next to it belongs to it. -/
inductive FileStage
  | awaited
  | separated
  | given
  | passed

structure Progress where
  options : Options
  stage : FileStage
  /-- The flag that waits for its value, with the settings of the same argument. -/
  waiting : Option (List Setting × Flag)
  unrecognized : List String

namespace Progress

def start : Progress := ⟨.default, .awaited, none, []⟩

def set (o : Options) : Setting → Except Stop Options
  | .switch f => o.setSwitch f
  | .value f s => o.setValue s f

def refuse (p : Progress) (s : String) : Progress :=
  { p with unrecognized := p.unrecognized ++ [s] }

def leaveFile (p : Progress) : Progress :=
  match p.stage with
  | .given => { p with stage := .passed }
  | _ => p

def addText (p : Progress) (s : String) : Except Stop Progress :=
  match p.stage with
  | .awaited => return { p with options := ← p.options.setFile s, stage := .given }
  | .separated => return { p with options := ← p.options.setFile s, stage := .passed }
  | _ => .ok (p.leaveFile.refuse s)

def addSeparator (p : Progress) : Progress :=
  match p.stage with
  | .awaited => { p with stage := .separated }
  | .given => { p with stage := .passed }
  | _ => p.refuse "--"

def addCluster (p : Progress) (c : Cluster) : Except Stop Progress := do
  let p := p.leaveFile
  match c.waiting with
  | some f => return { p with waiting := some (c.settings, f) }
  | none => return { p with options := ← c.settings.foldlM set p.options }

def addValue (p : Progress) (settings : List Setting) (f : Flag) (s : String) :
    Except Stop Progress :=
  return { p with
    options := ← (settings ++ [Setting.value f s]).foldlM set p.options
    waiting := none }

def add (p : Progress) (token : Token) : Except Stop Progress :=
  match p.waiting, token with
  | some (settings, f), .text s => p.addValue settings f s
  | some (_, f), _ => .error (.usage (.missingValue f))
  | none, .text s => p.addText s
  | none, .separator => .ok p.addSeparator
  | none, .unknown s => .ok (p.leaveFile.refuse s)
  | none, .flag f short attached =>
    match Cluster.ofFlag f short attached with
    | .ok c => p.addCluster c
    | .error e => .error (.usage e)

def finish (p : Progress) : Except Stop Options :=
  match p.waiting with
  | some (_, f) => .error (.usage (.missingValue f))
  | none =>
    if p.unrecognized.isEmpty then .ok p.options
    else .error (.usage (.unrecognized p.unrecognized))

end Progress

def Options.read (args : List String) : Except Stop Options :=
  match Token.ofArguments args with
  | .error e => .error (.usage e)
  | .ok tokens => do (← tokens.foldlM Progress.add Progress.start).finish

end TypedVocabulary.Command
