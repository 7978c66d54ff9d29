import TypedVocabulary.Failure
import TypedVocabulary.Text.Slice

/-! # Case of identifiers

A vocabulary name becomes an identifier of ASCII letters, digits and the low line: other
characters separate words, each word starts with a capital, and all else stays as it is written.
-/
namespace TypedVocabulary

inductive NamingCase
  /-- `startDate` becomes `StartDate`. -/
  | upperCamel
  /-- `StartDate` becomes `startDate`. -/
  | camel
  deriving DecidableEq

namespace NamingCase

def label : NamingCase → String
  | upperCamel => "upper_camel"
  | camel => "camel"

def ofLabel? : String → Option NamingCase
  | "upper_camel" => some upperCamel
  | "camel" => some camel
  | _ => none

end NamingCase

namespace Identifier

def isSeparator (c : Char) : Bool := c == '_' || c == '-'

def keep (c : Char) : Char := if c.isAlphanum || isSeparator c then c else '_'

/-- A name without usable characters is called `field`. -/
def clean (cs : List Char) : List Char :=
  match Text.trim isSeparator (cs.map keep) with
  | [] => ['f', 'i', 'e', 'l', 'd']
  | kept => kept

def capitalize : List Char → List Char
  | [] => []
  | c :: cs => c.toUpper :: cs

/-- Each character after a separator, or at the start, is capital; separators vanish. -/
def joinWords (atStart : Bool) : List Char → List Char
  | [] => []
  | c :: cs =>
    if isSeparator c then joinWords true cs
    else (if atStart then c.toUpper else c) :: joinWords false cs

/-- No identifier starts with a digit. -/
def guardDigit : List Char → List Char
  | [] => []
  | c :: cs => if c.isDigit then '_' :: c :: cs else c :: cs

def upperCamel (cs : List Char) : List Char := guardDigit (joinWords true (clean cs))

def lowerFirst : List Char → List Char
  | [] => []
  | c :: cs => c.toLower :: cs

def convertChars (style : NamingCase) (cs : List Char) : List Char :=
  match style with
  | .upperCamel => upperCamel cs
  | .camel => lowerFirst (upperCamel cs)

/-- A name in the wanted case, whatever other names there are. -/
def convert (style : NamingCase) (name : String) : String :=
  String.ofList (convertChars style name.toList)

end Identifier
end TypedVocabulary
