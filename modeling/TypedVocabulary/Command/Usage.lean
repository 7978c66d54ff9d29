import TypedVocabulary.Command.Run

/-! # Usage

The page that a request for help shows, and the text on a fault of usage.
-/
namespace TypedVocabulary.Command

def Flag.purpose : Flag → String
  | help => "show this page and exit"
  | url => "address to fetch the schema document from"
  | language => "target language (default: dotnet)"
  | outputDir => "directory to write generated files to (default: print them)"
  | config => "settings file (JSON)"
  | targetNamespace => "namespace of the generated code"
  | allowPartial => "skip models that fail to compile instead of failing the run"
  | noComments => "leave out documentation comments"
  | timeout => "request timeout in seconds (default: 30)"
  | listLanguages => "list supported languages and exit"
  | languageInfo => "show a language with its default settings and exit"
  | verbose => "show metadata of the result"
  | logLevel => "least level of shown log records (default: WARNING)"
  | version => "show the version and exit"

def usageLine : String := "usage: " ++ program ++ " [options] [file]"

def flagLine (f : Flag) : String :=
  "  " ++ Console.padTo 26 (joined f.spellings) ++ f.purpose

def helpLines : List String :=
  [usageLine, "", "Generate typed classes from a data model vocabulary", "",
   "  " ++ Console.padTo 26 "file" ++ "schema document (JSON)"] ++ Flag.all.map flagLine

def faultText (e : UsageError) : String := program ++ ": error: " ++ e.message

def faultLine? (e : UsageError) : Option String :=
  ((Text.brokenLines (faultText e)).filter fun l => !l.toList.all Text.isSpace).getLast?

end TypedVocabulary.Command
