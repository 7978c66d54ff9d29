import TypedVocabulary.Json.Reader
import TypedVocabulary.Schema.Document
import TypedVocabulary.Source.FileTree
import TypedVocabulary.Source.Url
import TypedVocabulary.Text.Encoding

/-! # Loading documents

A document comes from a file or from the reply of a server. Both are given as data, so that loading
itself is a function: the reply is what a request would be answered with.
-/
namespace TypedVocabulary

/-- How a request ends: with a page, or with a text that tells why there is none. -/
inductive Reply
  | page (status : Int) (contentType : String) (text : String)
  | timedOut (text : String)
  | notConnected (text : String)
  | withoutStatus (text : String)
  | failed (text : String)
  | unusable (text : String)
  deriving DecidableEq

inductive Source
  | file (path : Path)
  | page (url : String)
  deriving DecidableEq

structure LoadedSchema where
  source : String
  schema : SchemaSet

namespace Source

def note (level : Level) (text : String) : Logged Unit := Logged.write level Log.loaderSource text

def fail {α : Type} (text : String) (e : LoadError) : Logged α := do
  note .error text
  throw (.load e)

def name : Source → String
  | file path => path.text
  | page url => url

/-! ## Choice -/

def ofFile (file : String) : Logged Source := do
  let path := Path.ofText file
  note .debug ("Attempting to load JSON from file: " ++ path.text)
  return .file path

def ofUrl (url : String) : Logged Source := do
  note .debug ("Attempting to load JSON from URL: " ++ url)
  if (← Url.read url).isComplete then return .page url
  else fail ("Invalid URL format: " ++ url) (.invalidUrl url)

/-- An empty or absent value counts as none; there has to be exactly one. -/
def choose (file url : Json) : Logged Source :=
  match file.truthy, url.truthy with
  | false, false => fail "Neither file_path nor url provided" .noSource
  | true, true => fail "Both file_path and url provided" .twoSources
  | true, false => do ofFile (← file.asOperand)
  | false, true =>
    match url with
    | .str s => ofUrl s
    | v => do
      note .debug ("Attempting to load JSON from URL: " ++ v.display)
      throw (.misuse .lacksOperation)

def request? : Source → Option String
  | file _ => none
  | page url => some url

/-! ## Reading -/

def loaded (name : String) (v : Json) : Logged Json := do
  note .info ("Loaded JSON from " ++ name)
  return v

def readFile (files : FileTree) (path : Path) : Logged Json := do
  let name := path.text
  if !(← files.pathExists path) then
    note .error ("File not found: " ++ name)
    throw (.fileNotFound name)
  if !path.hasExtension [".json", ".jsonld"] then
    note .warning ("File does not have a JSON extension: " ++ name)
  match files.open path with
  | .error e => fail ("Error reading file " ++ name ++ ": " ++ e.message) (.unreadable name e)
  | .ok content =>
    match Json.parse (← FileTree.decodeContent content) with
    | .error (.syntaxError e) =>
      fail ("Invalid JSON in file " ++ name ++ ": " ++ e.message) (.invalidJson name e)
    | .error (.longInteger _ _) => throw (.misuse .outOfDomain)
    | .error .tooDeep => throw (.misuse .tooDeep)
    | .ok v => loaded name v

/-- Client and server errors are no pages. -/
def isErrorStatus (status : Int) : Bool := 400 ≤ status && status < 600

def badStatus (status : Option Int) (url : String) : Logged Json :=
  fail ("HTTP error " ++ status.elim "unknown" toString ++ " for URL: " ++ url)
    (.badStatus status url)

def requestFailed (url text : String) : Logged Json :=
  fail ("Request error for URL " ++ url ++ ": " ++ text) (.requestFailed url text)

def invalidResponse (url text : String) : Logged Json :=
  fail ("Invalid JSON response from URL " ++ url ++ ": " ++ text) (.invalidResponse url text)

/-- A page that is not declared as JSON, by its type or its address, is worth a warning. -/
def checkContentType (url contentType : String) : Logged Unit := do
  let declared := Text.lower contentType
  if !Text.occurs "json".toList declared.toList && !".json".toList.isSuffixOf url.toList then
    note .warning ("URL " ++ url ++ " does not have JSON content type: " ++ declared)

/-- A byte order mark in front of a page is no part of it. A page whose bytes tell another encoding
is read in that, if it can be. -/
def pageText (text : String) : String :=
  match text.toList with
  | '\ufeff' :: rest => String.ofList rest
  | cs =>
    let bytes := text.toUTF8.toList
    if bytes.length ≤ 3 then text
    else
      match (Text.Encoding.ofFirstBytes? bytes).bind (Text.Encoding.decode? bytes) with
      | some decoded => String.ofList decoded
      | none => String.ofList cs

def readPage (url : String) : Reply → Logged Json
  | .page status contentType text => do
    if isErrorStatus status then badStatus (some status) url
    else
      checkContentType url contentType
      match Json.parse (pageText text) with
      | .error (.syntaxError e) => requestFailed url e.message
      | .error (.longInteger limit digits) =>
        invalidResponse url (Json.longIntegerMessage limit digits)
      | .error .tooDeep => throw (.misuse .tooDeep)
      | .ok v => loaded url v
  | .timedOut _ => fail ("Request timeout for URL: " ++ url) (.timedOut url)
  | .notConnected text =>
    fail ("Connection error for URL " ++ url ++ ": " ++ text) (.notConnected url)
  | .withoutStatus _ => badStatus none url
  | .failed text => requestFailed url text
  | .unusable text => invalidResponse url text

def read (files : FileTree) (reply : Reply) : Source → Logged Json
  | file path => readFile files path
  | page url => readPage url reply

def parse (name : String) (document : Json) : Logged SchemaSet :=
  (Document.parse document).recover fun
    | .schema e =>
      fail ("Invalid schema document from " ++ name ++ ": " ++ e.message)
        (.invalidDocument name e)
    | e => throw e

def load (files : FileTree) (reply : Reply) (file url : Json) : Logged LoadedSchema := do
  let source ← choose file url
  let document ← source.read files reply
  return ⟨source.name, ← parse source.name document⟩

end Source
end TypedVocabulary
