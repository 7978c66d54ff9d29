import TypedVocabulary.Failure
import TypedVocabulary.Text.Slice

/-! # References to types

A reference names a type by an absolute address (`https://schema.org/Event`), a compact key
(`schema:Event`) or a local name (`#Event`). In front of any of them `ArrayOf` makes it a list.
After that mark a number sign is the local mark, unless an address follows: then it only separates.
-/
namespace TypedVocabulary

namespace Reference

def arrayMark : List Char := ['A', 'r', 'r', 'a', 'y', 'O', 'f']

def localMark : Char := '#'

def dropSeparator (cs : List Char) : List Char :=
  match cs with
  | c :: rest => if c = localMark && Text.occurs [':', '/', '/'] cs then rest else cs
  | [] => []

def stripMark (cs : List Char) : List Char :=
  match arrayMark.isPrefixOf? cs with
  | some rest => dropSeparator rest
  | none => cs

/-- The part after the last of `/`, `#` and `:`. -/
def shortChars (cs : List Char) : List Char :=
  Text.afterLast ':' (Text.afterLast '#' (Text.afterLast '/' (stripMark cs)))

def stripArrayMark (s : String) : String := String.ofList (stripMark s.toList)

def shortName (s : String) : String := String.ofList (shortChars s.toList)

end Reference

/-- A type by its address, key or local name, and whether a list of it is meant. -/
structure TypeReference where
  uri : String
  isArray : Bool
  deriving DecidableEq

namespace TypeReference

def ofText (s : String) : TypeReference :=
  ⟨Reference.stripArrayMark s, Reference.arrayMark.isPrefixOf s.toList⟩

def parse : Json → Attempt TypeReference
  | .str s => if s.isEmpty then .error (.schema (.invalidReference (.str s))) else .ok (ofText s)
  | v => .error (.schema (.invalidReference v))

def shortName (r : TypeReference) : String := Reference.shortName r.uri

/-- The written form: a separator stands between the array mark and any but a local name. -/
def text (r : TypeReference) : String :=
  if r.isArray then
    "ArrayOf" ++ (if r.uri.toList.head? = some Reference.localMark then "" else "#") ++ r.uri
  else r.uri

end TypeReference

inductive ScalarKind
  | boolean
  | dateTime
  | time
  | integer
  | float
  | number
  | date
  | text
  | duration
  | url
  | property
  deriving DecidableEq

namespace ScalarKind

def ofShortName? : String → Option ScalarKind
  | "Boolean" => some boolean
  | "DateTime" => some dateTime
  | "Time" => some time
  | "Integer" => some integer
  | "Float" => some float
  | "Number" => some number
  | "Date" => some date
  | "Text" => some text
  | "Duration" => some duration
  | "URL" => some url
  | "Property" => some property
  | _ => none

def label : ScalarKind → String
  | boolean => "BOOLEAN"
  | dateTime => "DATETIME"
  | time => "TIME"
  | integer => "INTEGER"
  | float => "FLOAT"
  | number => "NUMBER"
  | date => "DATE"
  | text => "TEXT"
  | duration => "DURATION"
  | url => "URL"
  | property => "PROPERTY"

end ScalarKind
end TypedVocabulary
