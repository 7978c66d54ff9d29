import TypedVocabulary.Failure
import TypedVocabulary.Text.Lowercase
import TypedVocabulary.Text.Slice

/-! # Web addresses

Of an address only the scheme and the authority are read, since loading asks for no more. The
authority may hold an IP address of version 6, or of a later version, in square brackets. Characters
that compatibility normalization turns into a delimiter are refused in it.
-/
namespace TypedVocabulary

/-! ## IP addresses -/

namespace IpAddress

def isDigit (c : Char) : Bool := '0' ≤ c && c ≤ '9'

def isHexDigit (c : Char) : Bool :=
  isDigit c || ('a' ≤ c && c ≤ 'f') || ('A' ≤ c && c ≤ 'F')

/-- A decimal number up to 255 without leading zeros. -/
def isOctet (cs : List Char) : Bool :=
  !cs.isEmpty && cs.length ≤ 3 && cs.all isDigit && (cs.length = 1 || cs.head? != some '0') &&
    cs.foldl (fun n c => n * 10 + (c.toNat - 48)) 0 ≤ 255

def isVersion4 (cs : List Char) : Bool :=
  let octets := Text.splitOn '.' cs
  octets.length = 4 && octets.all isOctet

def isGroup (cs : List Char) : Bool := !cs.isEmpty && cs.length ≤ 4 && cs.all isHexDigit

/-- The number of 16-bit groups that pieces between colons stand for. The last piece at the end of
an address may be of version 4 and stands for two. -/
def groupCount? (atEnd : Bool) : List (List Char) → Option Nat
  | [] => some 0
  | [p] =>
    if isGroup p then some 1 else if atEnd && isVersion4 p then some 2 else none
  | p :: ps => if isGroup p then (groupCount? atEnd ps).map (· + 1) else none

def sideCount? (atEnd : Bool) (cs : List Char) : Option Nat :=
  if cs.isEmpty then some 0 else groupCount? atEnd (Text.splitOn ':' cs)

def cutDoubleColon? : List Char → Option (List Char × List Char)
  | ':' :: ':' :: cs => some ([], cs)
  | [] => none
  | c :: cs => (cutDoubleColon? cs).map fun (before, after) => (c :: before, after)

/-- Eight groups, of which a double colon leaves out one or more. -/
def isGroups (cs : List Char) : Bool :=
  match cutDoubleColon? cs with
  | none => sideCount? true cs = some 8
  | some (before, after) =>
    match sideCount? false before, sideCount? true after with
    | some m, some n => m + n ≤ 7
    | _, _ => false

/-- Groups, with a zone after a percent sign if there is one. -/
def isVersion6 (cs : List Char) : Bool :=
  match Text.cut? '%' cs with
  | none => isGroups cs
  | some (groups, zone) => isGroups groups && !zone.isEmpty && !zone.contains '%'

/-- A version in hexadecimal digits after the letter, a dot, and more. -/
def isLaterVersion (cs : List Char) : Bool :=
  match Text.cut? '.' cs with
  | none => false
  | some (version, rest) => !version.isEmpty && version.all isHexDigit && !rest.isEmpty

def isLiteral (cs : List Char) : Bool :=
  match cs with
  | 'v' :: rest => isLaterVersion rest
  | _ => isVersion6 cs

end IpAddress

/-! ## Addresses -/

structure Url where
  scheme : String
  authority : String
  deriving DecidableEq

namespace Url

def isLetter (c : Char) : Bool := ('a' ≤ c && c ≤ 'z') || ('A' ≤ c && c ≤ 'Z')

def isSchemeChar (c : Char) : Bool :=
  isLetter c || IpAddress.isDigit c || c == '+' || c == '-' || c == '.'

def startsWithLetter : List Char → Bool
  | c :: _ => isLetter c
  | [] => false

/-- Control characters and blanks in front are dropped, tabs and line ends everywhere. -/
def clean (cs : List Char) : List Char :=
  (cs.dropWhile fun c => c.toNat ≤ 0x20).filter fun c => c != '\t' && c != '\r' && c != '\n'

def splitScheme (cs : List Char) : List Char × List Char :=
  match Text.cut? ':' cs with
  | none => ([], cs)
  | some (scheme, rest) =>
    if startsWithLetter scheme && scheme.all isSchemeChar then (scheme, rest) else ([], cs)

/-- An authority follows two slashes and ends before the next delimiter. -/
def authorityOf : List Char → List Char
  | '/' :: '/' :: rest => rest.takeWhile fun c => c != '/' && c != '?' && c != '#'
  | _ => []

/-- The part behind the last at sign, with the host in front. -/
def hostAndPort (authority : List Char) : List Char := Text.afterLast '@' authority

def bracketedHost? (place : List Char) : Option (List Char) := do
  let (before, rest) ← Text.cut? '[' place
  let (host, port) := (Text.cut? ']' rest).getD (rest, [])
  if before.isEmpty && (port.isEmpty || port.head? = some ':') then some host else none

/-- Where brackets are used there have to be both, and the host is an address that may stand in
them. -/
def hasValidBrackets (authority : List Char) : Bool :=
  match authority.contains '[', authority.contains ']' with
  | false, false => true
  | true, true =>
    let place := hostAndPort authority
    if place.contains '[' then (bracketedHost? place).any IpAddress.isLiteral
    else IpAddress.isLiteral (place.takeWhile (· != ':'))
  | _, _ => false

/-- Characters with a slash, question mark, number sign, at sign or colon in their compatibility
decomposition. -/
def disguisedDelimiters : List Nat :=
  [0x2047, 0x2048, 0x2049, 0x2100, 0x2101, 0x2105, 0x2106, 0x2A74, 0xFE13, 0xFE16, 0xFE55, 0xFE56,
   0xFE5F, 0xFE6B, 0xFF03, 0xFF0F, 0xFF1A, 0xFF1F, 0xFF20]

def isPlain (authority : List Char) : Bool :=
  authority.all fun c => !disguisedDelimiters.contains c.toNat

/-- The parts of an address; a malformed authority has no reading. -/
def read (s : String) : Attempt Url :=
  let (scheme, rest) := splitScheme (clean s.toList)
  let authority := authorityOf rest
  if hasValidBrackets authority && isPlain authority then
    .ok ⟨Text.lower (String.ofList scheme), String.ofList authority⟩
  else Attempt.outOfDomain

def isComplete (u : Url) : Bool := u.scheme ≠ "" && u.authority ≠ ""

end Url
end TypedVocabulary
