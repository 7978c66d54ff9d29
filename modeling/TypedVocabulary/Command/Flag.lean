import TypedVocabulary.Json.Literal
import TypedVocabulary.Text.Digit

/-! # Flags

The flags of the command line and how arguments are told apart. A flag may be abbreviated as long as
one only is meant, its value may stand behind an equals sign, and flags of one letter may be written
together, the value of the last one included. After a double dash no argument is a flag.
-/
namespace TypedVocabulary.Command

inductive Flag
  | help
  | url
  | language
  | outputDir
  | config
  | targetNamespace
  | allowPartial
  | noComments
  | timeout
  | listLanguages
  | languageInfo
  | verbose
  | logLevel
  | version
  deriving DecidableEq

namespace Flag

def all : List Flag :=
  [help, url, language, outputDir, config, targetNamespace, allowPartial, noComments, timeout,
   listLanguages, languageInfo, verbose, logLevel, version]

def spellings : Flag → List String
  | help => ["-h", "--help"]
  | url => ["--url"]
  | language => ["--language", "-l"]
  | outputDir => ["--output-dir", "-o"]
  | config => ["--config"]
  | targetNamespace => ["--namespace"]
  | allowPartial => ["--allow-partial"]
  | noComments => ["--no-comments"]
  | timeout => ["--timeout"]
  | listLanguages => ["--list-languages"]
  | languageInfo => ["--language-info"]
  | verbose => ["--verbose", "-v"]
  | logLevel => ["--log-level"]
  | version => ["--version"]

def takesValue : Flag → Bool
  | url => true
  | language => true
  | outputDir => true
  | config => true
  | targetNamespace => true
  | timeout => true
  | languageInfo => true
  | logLevel => true
  | _ => false

def label (f : Flag) : String := String.intercalate "/" f.spellings

def table : List (String × Flag) := all.flatMap fun f => f.spellings.map fun s => (s, f)

def ofSpelling? (s : String) : Option Flag := KeyedList.value? table s

end Flag

/-! ## Faults of usage -/

inductive UsageError
  | ambiguous (given : String) (spellings : List String)
  | missingValue (flag : Flag)
  | extraValue (flag : Flag) (value : String)
  | notInteger (flag : Flag) (value : String)
  | notChoice (flag : Flag) (value : String) (choices : List String)
  /-- The document is asked for both as a file and under an address. -/
  | conflict (argument other : String)
  | unrecognized (arguments : List String)
  deriving DecidableEq

def aboutFlag (f : Flag) (text : String) : String := "argument " ++ f.label ++ ": " ++ text

def UsageError.message : UsageError → String
  | ambiguous given spellings =>
    "ambiguous option: " ++ given ++ " could match " ++ String.intercalate ", " spellings
  | missingValue f => aboutFlag f "expected one argument"
  | extraValue f v => aboutFlag f ("ignored explicit argument " ++ Json.literalText v)
  | notInteger f v => aboutFlag f ("invalid int value: " ++ Json.literalText v)
  | notChoice f v choices =>
    aboutFlag f ("invalid choice: " ++ Json.literalText v ++ " (choose from " ++
      String.intercalate ", " (choices.map Json.literalText) ++ ")")
  | conflict a b => "argument " ++ a ++ ": not allowed with argument " ++ b
  | unrecognized arguments => "unrecognized arguments: " ++ String.intercalate " " arguments

/-! ## Tokens -/

inductive Token
  | text (s : String)
  | separator
  /-- What follows a flag in its own argument, behind an equals sign or right behind the letter. -/
  | flag (f : Flag) (short : Bool) (attached : Option (List Char))
  | unknown (s : String)

namespace Token

def isLong (cs : List Char) : Bool := ['-', '-'].isPrefixOf cs

def spelled? (cs : List Char) : Option Token :=
  match Flag.ofSpelling? (String.ofList cs) with
  | some f => some (.flag f (!isLong cs) none)
  | none => do
    let (name, value) ← Text.cut? '=' cs
    let f ← Flag.ofSpelling? (String.ofList name)
    return .flag f (!isLong name) (some value)

/-- The flags that an abbreviation may stand for, each under its spelling. -/
def abbreviated (cs : List Char) : List (String × Token) :=
  let (name, attached) :=
    match Text.cut? '=' cs with
    | some (name, value) => (name, some value)
    | none => (cs, none)
  (Flag.table.filter fun entry => name.isPrefixOf entry.1.toList).map fun (s, f) =>
    (s, .flag f false attached)

def lettered (cs : List Char) : List (String × Token) :=
  (Flag.table.filter fun entry => entry.1.toList == cs.take 2).map fun (s, f) =>
    (s, .flag f true (some (cs.drop 2)))

/-- What looks like a number or holds a blank is no flag. -/
def ofUnknown (s : String) : Token :=
  if Text.isNegativeNumber s.toList || s.toList.contains ' ' then .text s else .unknown s

def ofArgument (s : String) : Except UsageError Token :=
  let cs := s.toList
  match cs with
  | '-' :: _ :: _ =>
    match spelled? cs with
    | some token => .ok token
    | none =>
      match if isLong cs then abbreviated cs else lettered cs with
      | [] => .ok (ofUnknown s)
      | [(_, token)] => .ok token
      | many => .error (.ambiguous s (many.map (·.1)))
  | _ => .ok (.text s)

def ofArguments : List String → Except UsageError (List Token)
  | [] => .ok []
  | s :: rest =>
    if s = "--" then .ok (.separator :: rest.map .text)
    else do
      let token ← ofArgument s
      return token :: (← ofArguments rest)

end Token
end TypedVocabulary.Command
