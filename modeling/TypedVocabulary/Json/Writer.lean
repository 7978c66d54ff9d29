import TypedVocabulary.Json.Literal

/-! # Writing JSON texts

Values are written over several lines with two blanks a level; empty lists and objects take one
line. Texts keep every character but quotes, backslashes and controls.
-/
namespace TypedVocabulary.Json

def quoteChar (c : Char) : List Char :=
  if c = '"' then ['\\', '"']
  else if c = '\\' then ['\\', '\\']
  else if c = '\n' then ['\\', 'n']
  else if c = '\r' then ['\\', 'r']
  else if c = '\t' then ['\\', 't']
  else if c = '\x0c' then ['\\', 'f']
  else if c = '\x08' then ['\\', 'b']
  else if c.toNat < 0x20 then '\\' :: 'u' :: hexDigits 4 c.toNat
  else [c]

def quoteChars (cs : List Char) : List Char := '"' :: cs.flatMap quoteChar ++ ['"']

def quote (s : String) : String := String.ofList (quoteChars s.toList)

def writeFloat : Binary64 → List Char
  | .finite negative m e _ => Binary64.finiteText negative m e
  | .infinite negative => (if negative then "-Infinity" else "Infinity").toList
  | .nan => "NaN".toList

def newLine (level : Nat) : List Char := '\n' :: List.replicate (2 * level) ' '

mutual

def writeChars (level : Nat) : Json → List Char
  | null => "null".toList
  | bool b => (if b then "true" else "false").toList
  | int n => (toString n).toList
  | float x => writeFloat x
  | str s => quoteChars s.toList
  | arr items =>
    match items with
    | [] => ['[', ']']
    | v :: vs =>
      '[' :: newLine (level + 1) ++ writeChars (level + 1) v ++ writeItems (level + 1) vs ++
        newLine level ++ [']']
  | obj members =>
    match members with
    | [] => ['{', '}']
    | (key, v) :: ms =>
      '{' :: newLine (level + 1) ++ quoteChars key.toList ++ ':' :: ' ' ::
        writeChars (level + 1) v ++ writeMembers (level + 1) ms ++ newLine level ++ ['}']

def writeItems (level : Nat) : List Json → List Char
  | [] => []
  | v :: vs => ',' :: newLine level ++ writeChars level v ++ writeItems level vs

def writeMembers (level : Nat) : List (String × Json) → List Char
  | [] => []
  | (key, v) :: ms =>
    ',' :: newLine level ++ quoteChars key.toList ++ ':' :: ' ' :: writeChars level v ++
      writeMembers level ms

end

def write (v : Json) : String := String.ofList (writeChars 0 v)

end TypedVocabulary.Json
