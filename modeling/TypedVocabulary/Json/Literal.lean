import TypedVocabulary.Json.Basic
import TypedVocabulary.Number.Shortest
import TypedVocabulary.Text.Printable

/-! # Values as text

Messages and generated text show a value by its literal: texts in quotes, lists in brackets,
objects in braces. On its own a text is shown without quotes.
-/
namespace TypedVocabulary.Json

/-- Texts stand in single quotes unless that would force an escape that double quotes avoid. -/
def quoteFor (cs : List Char) : Char :=
  if cs.contains '\'' && !cs.contains '"' then '"' else '\''

/-- The last `width` hexadecimal digits. -/
def hexDigits : Nat → Nat → List Char
  | 0, _ => []
  | width + 1, n => hexDigits width (n / 16) ++ [Nat.digitChar (n % 16)]

def literalChar (quote c : Char) : List Char :=
  if c = quote || c = '\\' then ['\\', c]
  else if c = '\n' then ['\\', 'n']
  else if c = '\r' then ['\\', 'r']
  else if c = '\t' then ['\\', 't']
  else if Text.isPrintable c then [c]
  else if c.toNat < 0x100 then '\\' :: 'x' :: hexDigits 2 c.toNat
  else if c.toNat < 0x10000 then '\\' :: 'u' :: hexDigits 4 c.toNat
  else '\\' :: 'U' :: hexDigits 8 c.toNat

def literalText (s : String) : String :=
  let q := quoteFor s.toList
  String.ofList (q :: s.toList.flatMap (literalChar q) ++ [q])

def literalFloat : Binary64 → String
  | .finite negative m e _ => String.ofList (Binary64.finiteText negative m e)
  | .infinite negative => if negative then "-inf" else "inf"
  | .nan => "nan"

mutual

def literal : Json → String
  | null => "None"
  | bool b => if b then "True" else "False"
  | int n => toString n
  | float x => literalFloat x
  | str s => literalText s
  | arr items => "[" ++ literalItems items ++ "]"
  | obj members => "\x7b" ++ literalMembers members ++ "\x7d"

def literalItems : List Json → String
  | [] => ""
  | [v] => literal v
  | v :: rest => literal v ++ ", " ++ literalItems rest

def literalMembers : List (String × Json) → String
  | [] => ""
  | [(k, v)] => literalText k ++ ": " ++ literal v
  | (k, v) :: rest => literalText k ++ ": " ++ literal v ++ ", " ++ literalMembers rest

end

/-- A text stands for itself and any other value for its literal. -/
def display : Json → String
  | str s => s
  | v => v.literal

end TypedVocabulary.Json
