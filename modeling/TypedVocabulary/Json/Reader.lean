import TypedVocabulary.Failure

/-! # Reading JSON texts

The reader goes through the characters from left to right and stops at the first fault, with the
offset where it stands. It refuses whole numbers of very many digits and very deep nesting. Besides
the standard it takes `NaN`, `Infinity` and `-Infinity`, and a member that is given twice keeps its
first place and its last value. Half of a surrogate pair stands for the replacement character.
-/
namespace TypedVocabulary.Json.Reader

inductive Fault
  | syntaxError (cause : SyntaxCause) (offset : Nat)
  | longInteger (digits : Nat)
  | tooDeep

/-- What was read, the offset behind it, and the characters from there on. -/
abbrev Read (α : Type) := Except Fault (α × Nat × List Char)

def isBlank (c : Char) : Bool := c == ' ' || c == '\t' || c == '\n' || c == '\r'

def skipBlanks (pos : Nat) : List Char → Nat × List Char
  | [] => (pos, [])
  | c :: cs => if isBlank c then skipBlanks (pos + 1) cs else (pos, c :: cs)

/-! ## Texts -/

def hexValue? (c : Char) : Option Nat :=
  if '0' ≤ c ∧ c ≤ '9' then some (c.toNat - 48)
  else if 'a' ≤ c ∧ c ≤ 'f' then some (c.toNat - 87)
  else if 'A' ≤ c ∧ c ≤ 'F' then some (c.toNat - 55)
  else none

def hexUnit? (a b c d : Char) : Option Nat := do
  return (((← hexValue? a) * 16 + (← hexValue? b)) * 16 + (← hexValue? c)) * 16 + (← hexValue? d)

def isHighSurrogate (n : Nat) : Bool := 0xD800 ≤ n && n < 0xDC00

def isLowSurrogate (n : Nat) : Bool := 0xDC00 ≤ n && n < 0xE000

def unitChar (n : Nat) : Char :=
  if isHighSurrogate n || isLowSurrogate n then Char.ofNat 0xFFFD else Char.ofNat n

def pairChar (high low : Nat) : Char :=
  Char.ofNat (0x10000 + (high - 0xD800) * 0x400 + (low - 0xDC00))

def shortEscape? : Char → Option Char
  | '"' => some '"'
  | '\\' => some '\\'
  | '/' => some '/'
  | 'b' => some '\x08'
  | 'f' => some '\x0c'
  | 'n' => some '\n'
  | 'r' => some '\r'
  | 't' => some '\t'
  | _ => none

/-- What stands behind a backslash: a character with the number of characters that write it, a
fault with its distance from the backslash, or the end of the input. -/
inductive Escape
  | char (c : Char) (width : Nat)
  | fault (cause : SyntaxCause) (distance : Nat)
  | ended

/-- The unit of a second escape that follows a first one, if it is one. -/
def secondUnit : List Char → Option (Option Nat)
  | '\\' :: 'u' :: a :: b :: c :: d :: _ :: _ => some (hexUnit? a b c d)
  | _ => none

/-- The four digits need a character after them, which closes the text at the latest. -/
def unicodeEscape : List Char → Escape
  | a :: b :: c :: d :: e :: rest =>
    match hexUnit? a b c d with
    | none => .fault .unicodeEscape 1
    | some unit =>
      if isHighSurrogate unit then
        match secondUnit (e :: rest) with
        | some none => .fault .unicodeEscape 7
        | some (some low) =>
          if isLowSurrogate low then .char (pairChar unit low) 11 else .char (unitChar unit) 5
        | none => .char (unitChar unit) 5
      else .char (unitChar unit) 5
  | _ => .fault .unicodeEscape 1

def escape : List Char → Escape
  | [] => .ended
  | 'u' :: rest => unicodeEscape rest
  | c :: _ =>
    match shortEscape? c with
    | some d => .char d 1
    | none => .fault .escape 0

def prepend (c : Char) : Read (List Char) → Read (List Char)
  | .ok (cs, rest) => .ok (c :: cs, rest)
  | .error e => .error e

/-- The characters of a text up to its closing quote. `start` is the offset of the opening one and
`skip` counts the characters of an escape that are already read. -/
def textBody (start skip pos : Nat) : List Char → Read (List Char)
  | [] => .error (.syntaxError .unterminatedText start)
  | c :: cs =>
    match skip with
    | skip + 1 => textBody start skip (pos + 1) cs
    | 0 =>
      if c = '"' then .ok ([], pos + 1, cs)
      else if c = '\\' then
        match escape cs with
        | .char d width => prepend d (textBody start width (pos + 1) cs)
        | .fault cause distance => .error (.syntaxError cause (pos + distance))
        | .ended => .error (.syntaxError .unterminatedText start)
      else if c.toNat < 0x20 then .error (.syntaxError .controlCharacter pos)
      else prepend c (textBody start 0 (pos + 1) cs)

/-- Reads a text whose opening quote stands just before `pos`. -/
def text (pos : Nat) (cs : List Char) : Read String :=
  (textBody (pos - 1) 0 pos cs).map fun (body, rest) => (String.ofList body, rest)

/-! ## Numbers -/

def digitsValue (cs : List Char) : Nat := cs.foldl (fun n c => n * 10 + (c.toNat - 48)) 0

def fraction (cs : List Char) : List Char × List Char :=
  match cs with
  | '.' :: rest =>
    match rest.takeWhile Char.isDigit with
    | [] => ([], cs)
    | digits => (digits, rest.dropWhile Char.isDigit)
  | _ => ([], cs)

def exponentSign : List Char → Bool × List Char
  | '-' :: rest => (true, rest)
  | '+' :: rest => (false, rest)
  | rest => (false, rest)

def exponent (cs : List Char) : Option Int × List Char :=
  match cs with
  | c :: rest =>
    if c = 'e' ∨ c = 'E' then
      let (negative, rest) := exponentSign rest
      match rest.takeWhile Char.isDigit with
      | [] => (none, cs)
      | digits =>
        let n : Int := digitsValue digits
        (some (if negative then -n else n), rest.dropWhile Char.isDigit)
    else (none, cs)
  | [] => (none, [])

/-- The digits in front: a single zero, or digits that do not start with zero. -/
def wholePart : List Char → Option (List Char × List Char)
  | '0' :: rest => some (['0'], rest)
  | c :: rest =>
    if c.isDigit then some (c :: rest.takeWhile Char.isDigit, rest.dropWhile Char.isDigit)
    else none
  | [] => none

def maxDigits : Nat := 4300

/-- A number after its sign; without point and exponent it is whole. -/
def unsigned (negative : Bool) (cs : List Char) : Option (Except Fault Json × List Char) := do
  let (whole, rest) ← wholePart cs
  let (decimals, rest) := fraction rest
  let (power, rest) := exponent rest
  if decimals.isEmpty && power.isNone then
    if maxDigits < whole.length then return (.error (.longInteger whole.length), rest)
    else
      let n : Int := digitsValue whole
      return (.ok (.int (if negative then -n else n)), rest)
  else
    let digits := digitsValue (whole ++ decimals)
    return (.ok (.float (.ofDecimal negative digits (power.getD 0 - decimals.length))), rest)

def number (pos : Nat) (cs : List Char) : Read Json :=
  let result :=
    match cs with
    | '-' :: rest => unsigned true rest
    | _ => unsigned false cs
  match result with
  | some (v, rest) => v.map fun v => (v, pos + (cs.length - rest.length), rest)
  | none => .error (.syntaxError .value pos)

/-! ## Values -/

mutual

/-- Reads a value in which lists and objects may be `depth` deep. Every character costs at most two
steps: one for the value that it opens and one for the items of that value. -/
def value : Nat → Nat → Nat → List Char → Read Json
  | 0, _, pos, _ => .error (.syntaxError .value pos)
  | fuel + 1, depth, pos, cs =>
    match cs with
    | [] => .error (.syntaxError .value pos)
    | '"' :: rest => (text (pos + 1) rest).map fun (s, rest) => (.str s, rest)
    | '[' :: rest =>
      match depth, skipBlanks (pos + 1) rest with
      | 0, _ => .error .tooDeep
      | _, (pos, ']' :: rest) => .ok (.arr [], pos + 1, rest)
      | depth + 1, (pos, rest) =>
        (items fuel depth pos rest).map fun (vs, rest) => (.arr vs, rest)
    | '{' :: rest =>
      match depth, skipBlanks (pos + 1) rest with
      | 0, _ => .error .tooDeep
      | _, (pos, '}' :: rest) => .ok (.obj [], pos + 1, rest)
      | depth + 1, (pos, rest) =>
        (members fuel depth pos rest).map fun (ms, rest) => (.obj (KeyedList.putAll [] ms), rest)
    | 'n' :: 'u' :: 'l' :: 'l' :: rest => .ok (.null, pos + 4, rest)
    | 't' :: 'r' :: 'u' :: 'e' :: rest => .ok (.bool true, pos + 4, rest)
    | 'f' :: 'a' :: 'l' :: 's' :: 'e' :: rest => .ok (.bool false, pos + 5, rest)
    | 'N' :: 'a' :: 'N' :: rest => .ok (.float .nan, pos + 3, rest)
    | 'I' :: 'n' :: 'f' :: 'i' :: 'n' :: 'i' :: 't' :: 'y' :: rest =>
      .ok (.float (.infinite false), pos + 8, rest)
    | '-' :: 'I' :: 'n' :: 'f' :: 'i' :: 'n' :: 'i' :: 't' :: 'y' :: rest =>
      .ok (.float (.infinite true), pos + 9, rest)
    | cs => number pos cs

def items : Nat → Nat → Nat → List Char → Except Fault (List Json × Nat × List Char)
  | 0, _, pos, _ => .error (.syntaxError .value pos)
  | fuel + 1, depth, pos, cs => do
    let (v, pos, rest) ← value fuel depth pos cs
    match skipBlanks pos rest with
    | (pos, ']' :: rest) => return ([v], pos + 1, rest)
    | (pos, ',' :: rest) =>
      let (pos, rest) := skipBlanks (pos + 1) rest
      let (vs, rest) ← items fuel depth pos rest
      return (v :: vs, rest)
    | (pos, _) => throw (.syntaxError .comma pos)

def members :
    Nat → Nat → Nat → List Char → Except Fault (List (String × Json) × Nat × List Char)
  | 0, _, pos, _ => .error (.syntaxError .value pos)
  | fuel + 1, depth, pos, cs => do
    match cs with
    | '"' :: rest =>
      let (key, pos, rest) ← text (pos + 1) rest
      match skipBlanks pos rest with
      | (pos, ':' :: rest) =>
        let (pos, rest) := skipBlanks (pos + 1) rest
        let (v, pos, rest) ← value fuel depth pos rest
        match skipBlanks pos rest with
        | (pos, '}' :: rest) => return ([(key, v)], pos + 1, rest)
        | (pos, ',' :: rest) =>
          let (pos, rest) := skipBlanks (pos + 1) rest
          let (ms, rest) ← members fuel depth pos rest
          return ((key, v) :: ms, rest)
        | (pos, _) => throw (.syntaxError .comma pos)
      | (pos, _) => throw (.syntaxError .colon pos)
    | _ => throw (.syntaxError .memberName pos)

end

def maxDepth : Nat := 985

def document (cs : List Char) : Except Fault Json := do
  if cs.head? = some (Char.ofNat 0xFEFF) then throw (.syntaxError .byteOrderMark 0)
  let (pos, rest) := skipBlanks 0 cs
  let (v, pos, rest) ← value (2 * cs.length + 1) maxDepth pos rest
  match skipBlanks pos rest with
  | (_, []) => return v
  | (pos, _) => throw (.syntaxError .extraData pos)

def place (offset : Nat) (cs : List Char) : Nat × Nat :=
  let before := cs.take offset
  (before.count '\n' + 1, (before.reverse.takeWhile (· != '\n')).length + 1)

end Reader

def parse (s : String) : Except ReadError Json :=
  (Reader.document s.toList).mapError fun
    | .syntaxError cause offset =>
      let (line, column) := Reader.place offset s.toList
      .syntaxError ⟨cause, line, column, offset⟩
    | .longInteger digits => .longInteger Reader.maxDigits digits
    | .tooDeep => .tooDeep

end TypedVocabulary.Json
