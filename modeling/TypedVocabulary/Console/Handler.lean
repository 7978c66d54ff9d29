import TypedVocabulary.Text.Word

/-! # Handlers of tags

A tag may name a handler together with its arguments, which have to be literals: numbers, texts,
truth values, and tuples, sets and tables of literals in parentheses and braces. Nothing is made of
the arguments here; they are only checked.
-/
namespace TypedVocabulary.Handler

/-! ## Tokens -/

inductive Shape
  | real
  /-- A number with a sign, which takes no other one. -/
  | signed
  | imaginary
  | text (bytes : Bool)
  | key
  | notKey
  deriving DecidableEq

def Shape.isKey (s : Shape) : Bool := s ≠ notKey

inductive Token
  | literal (s : Shape)
  | set
  | mark (c : Char)
  deriving DecidableEq

def isDigitOf (base : Nat) (c : Char) : Bool :=
  let n :=
    if '0' ≤ c ∧ c ≤ '9' then c.toNat - 48
    else if 'a' ≤ c ∧ c ≤ 'f' then c.toNat - 87
    else if 'A' ≤ c ∧ c ≤ 'F' then c.toNat - 55
    else 16
  n < base

def digits? (base : Nat) : List Char → Option (Nat × List Char)
  | [] => none
  | c :: cs =>
    if !isDigitOf base c then none
    else
      match cs with
      | '_' :: d :: rest => (digits? base (d :: rest)).map fun (n, rest) => (n + 1, rest)
      | ['_'] => none
      | [] => some (1, [])
      | d :: rest =>
        if isDigitOf base d then (digits? base (d :: rest)).map fun (n, rest) => (n + 1, rest)
        else some (1, d :: rest)

def exponent? : List Char → Option (Bool × List Char)
  | c :: rest =>
    if c = 'e' || c = 'E' then
      let unsigned :=
        match rest with
        | '+' :: more => more
        | '-' :: more => more
        | more => more
      (digits? 10 unsigned).map fun (_, rest) => (true, rest)
    else some (false, c :: rest)
  | [] => some (false, [])

/-- Whole numbers have no leading zeros, unless they are zero, and no more than the allowed digits.
-/
def isWhole (cs rest : List Char) (count : Nat) : Bool :=
  let written := cs.take (cs.length - rest.length)
  (written.head? ≠ some '0' || written.all fun c => c == '0' || c == '_') && count ≤ Text.maxDigits

def number? (cs : List Char) : Option (Shape × List Char) := do
  match cs with
  | '0' :: b :: rest =>
    match baseOf? b with
    | some base =>
      let (_, rest) ← digits? base (dropLowLine rest)
      return (.real, rest)
    | none => decimal? cs
  | cs => decimal? cs
where
  baseOf? (c : Char) : Option Nat :=
    if c = 'x' || c = 'X' then some 16
    else if c = 'o' || c = 'O' then some 8
    else if c = 'b' || c = 'B' then some 2
    else none
  dropLowLine : List Char → List Char
    | '_' :: rest => rest
    | rest => rest
  decimal? (cs : List Char) : Option (Shape × List Char) := do
    let (count, rest) ←
      match cs with
      | '.' :: _ => some (0, cs)
      | _ => digits? 10 cs
    let (pointed, rest) ←
      match rest with
      | '.' :: more =>
        if (more.head?.map (isDigitOf 10)).getD false then
          (digits? 10 more).map fun (_, rest) => (true, rest)
        else if count = 0 then none
        else some (true, more)
      | more => some (false, more)
    let (scaled, rest) ← exponent? rest
    match rest with
    | 'j' :: rest => return (.imaginary, rest)
    | 'J' :: rest => return (.imaginary, rest)
    | rest => if pointed || scaled || isWhole cs rest count then some (.real, rest) else none

def escapeWidth (bytes : Bool) : Char → Nat
  | 'x' => 2
  | 'u' => if bytes then 0 else 4
  | 'U' => if bytes then 0 else 8
  | _ => 0

/-- The rest of a text behind its closing quotes. An escape needs its digits, bytes are ASCII, and
only three quotes enclose line feeds. -/
def textEnd? (raw bytes : Bool) (quotes : List Char) (skip : Nat) : List Char → Option (List Char)
  | [] => none
  | c :: cs =>
    match skip with
    | skip + 1 => textEnd? raw bytes quotes skip cs
    | 0 =>
      if quotes.isPrefixOf (c :: cs) then some ((c :: cs).drop quotes.length)
      else if bytes && 0x80 ≤ c.toNat then none
      else if c = '\n' && quotes.length = 1 then none
      else if c = '\\' then
        match cs with
        | [] => none
        | d :: rest =>
          let width := if raw then 0 else escapeWidth bytes d
          let digits := rest.take width
          if bytes && 0x80 ≤ d.toNat then none
          else if digits.length = width && digits.all (isDigitOf 16) && isCodePoint digits then
            textEnd? raw bytes quotes 1 cs
          else none
      else textEnd? raw bytes quotes 0 cs
where
  isCodePoint (digits : List Char) : Bool :=
    digits.length < 8 || digits.take 2 == ['0', '0'] &&
      ((digits.drop 2).head? == some '0' || (digits.drop 2).take 2 == ['1', '0'])

def text? (raw bytes : Bool) (quote : Char) (cs : List Char) : Option (Shape × List Char) :=
  let rest :=
    if [quote, quote].isPrefixOf cs then textEnd? raw bytes [quote, quote, quote] 0 (cs.drop 2)
    else textEnd? raw bytes [quote] 0 cs
  rest.map fun rest => (.text bytes, rest)

def marker? (word : List Char) : Option (Bool × Bool) :=
  match word.map Char.toLower with
  | [] => some (false, false)
  | ['u'] => some (false, false)
  | ['r'] => some (true, false)
  | ['b'] => some (false, true)
  | ['b', 'r'] => some (true, true)
  | ['r', 'b'] => some (true, true)
  | _ => none

def word? (word : List Char) : Option Token :=
  match String.ofList word with
  | "None" => some (.literal .key)
  | "True" => some (.literal .key)
  | "False" => some (.literal .key)
  | "set" => some .set
  | _ => none

def isSpace (c : Char) : Bool := c == ' ' || c == '\t' || c == '\x0c' || c == '\n' || c == '\r'

def isMark (c : Char) : Bool := ['(', ')', '{', '}', ',', ':', '+', '-'].contains c

def token? (cs : List Char) : Option (Token × List Char) :=
  match cs with
  | [] => none
  | '.' :: '.' :: '.' :: rest => some (.literal .key, rest)
  | c :: rest =>
    if isMark c then some (.mark c, rest)
    else if c.isDigit || c = '.' then (number? cs).map fun (s, rest) => (.literal s, rest)
    else
      let word := cs.takeWhile Text.isWordChar
      match cs.drop word.length with
      | q :: rest =>
        if q = '\'' || q = '"' then do
          let (raw, bytes) ← marker? word
          let (s, rest) ← text? raw bytes q rest
          return (.literal s, rest)
        else (word? word).map fun t => (t, q :: rest)
      | [] => (word? word).map fun t => (t, [])

def tokens? : Nat → List Char → Option (List Token)
  | 0, _ => none
  | fuel + 1, cs =>
    match cs.dropWhile isSpace with
    | [] => some []
    | cs => do
      let (t, rest) ← token? cs
      return t :: (← tokens? fuel rest)

/-! ## Literals -/

/-- Texts next to each other are one text, if they are of one kind. -/
def joinTexts (bytes : Bool) : List Token → Option (Shape × List Token)
  | .literal (.text b) :: rest => if b = bytes then joinTexts bytes rest else none
  | rest => some (.text bytes, rest)

def withSign : Shape → Option Shape
  | .real => some .signed
  | .imaginary => some .key
  | _ => none

def sum : Shape → Shape → Option Shape
  | .real, .imaginary => some .key
  | .signed, .imaginary => some .key
  | _, _ => none

mutual

def value? : Nat → List Token → Option (Shape × List Token)
  | 0, _ => none
  | fuel + 1, ts => do
    let (s, rest) ← operand? fuel ts
    match rest with
    | .mark '+' :: rest => addTo fuel s rest
    | .mark '-' :: rest => addTo fuel s rest
    | rest => return (s, rest)

/-- The imaginary part behind a sign; nothing may be added to the sum. -/
def addTo : Nat → Shape → List Token → Option (Shape × List Token)
  | 0, _, _ => none
  | fuel + 1, s, ts => do
    let (t, rest) ← atom? fuel ts
    match rest with
    | .mark '+' :: _ => none
    | .mark '-' :: _ => none
    | rest => return (← sum s t, rest)

def operand? : Nat → List Token → Option (Shape × List Token)
  | 0, _ => none
  | fuel + 1, ts =>
    match ts with
    | .mark '+' :: rest => do
      let (s, rest) ← atom? fuel rest
      return (← withSign s, rest)
    | .mark '-' :: rest => do
      let (s, rest) ← atom? fuel rest
      return (← withSign s, rest)
    | ts => atom? fuel ts

def atom? : Nat → List Token → Option (Shape × List Token)
  | 0, _ => none
  | fuel + 1, ts =>
    match ts with
    | .literal (.text bytes) :: rest => joinTexts bytes rest
    | .literal s :: rest => some (s, rest)
    | .set :: .mark '(' :: .mark ')' :: rest => some (.notKey, rest)
    | .mark '(' :: .mark ')' :: rest => some (.key, rest)
    | .mark '(' :: rest => do
      let (s, rest) ← value? fuel rest
      match rest with
      | .mark ')' :: rest => return (s, rest)
      | .mark ',' :: rest => items? fuel ')' s.isKey rest
      | _ => none
    | .mark '{' :: .mark '}' :: rest => some (.notKey, rest)
    | .mark '{' :: rest => do
      let (s, more) ← value? fuel rest
      if !s.isKey then none
      else
        match more with
        | .mark ':' :: _ => members? fuel rest
        | .mark ',' :: rest => do
          let (s, rest) ← items? fuel '}' true rest
          if s.isKey then return (.notKey, rest) else none
        | .mark '}' :: rest => return (.notKey, rest)
        | _ => none
    | _ => none

/-- Further items up to the closing mark, behind a comma. A tuple is a key if all its items are. -/
def items? : Nat → Char → Bool → List Token → Option (Shape × List Token)
  | 0, _, _, _ => none
  | fuel + 1, close, keys, ts =>
    match ts with
    | .mark c :: rest =>
      if c = close then some (if keys then .key else .notKey, rest)
      else nextItem fuel close keys ts
    | ts => nextItem fuel close keys ts

def nextItem : Nat → Char → Bool → List Token → Option (Shape × List Token)
  | 0, _, _, _ => none
  | fuel + 1, close, keys, ts => do
    let (s, rest) ← value? fuel ts
    let keys := keys && s.isKey
    match rest with
    | .mark ',' :: rest => items? fuel close keys rest
    | .mark c :: rest =>
      if c = close then return (if keys then .key else .notKey, rest) else none
    | _ => none

def members? : Nat → List Token → Option (Shape × List Token)
  | 0, _ => none
  | fuel + 1, ts => do
    let (s, rest) ← value? fuel ts
    match s.isKey, rest with
    | true, .mark ':' :: rest =>
      let (_, rest) ← value? fuel rest
      match rest with
      | .mark '}' :: rest => return (.notKey, rest)
      | .mark ',' :: .mark '}' :: rest => return (.notKey, rest)
      | .mark ',' :: rest => members? fuel rest
      | _ => none
    | _, _ => none

end

/-- A closing mark that no text of literals holds, so that a tuple may lack its parentheses. -/
def endMark : Char := '\n'

/-- Whether a text is a literal, or several between commas. -/
def isLiteral (cs : List Char) : Bool :=
  match tokens? (cs.length + 1) cs with
  | none => false
  | some ts =>
    match nextItem (6 * ts.length + 12) endMark true (ts ++ [.mark endMark]) with
    | some (_, []) => true
    | _ => false

/-! ## Arguments -/

def split? (cs : List Char) : Option (List Char × List Char) :=
  let name := cs.takeWhile fun c => Text.isWordChar c || c == '.'
  let rest := cs.drop name.length
  match rest with
  | [] => some (name, [])
  | c :: _ => if c = '(' && rest.getLast? = some ')' && !rest.contains '\n' then some (name, rest)
    else none

/-- A handler without arguments is fine, and so is a bare literal. -/
def isWellFormed (given : List Char) : Bool :=
  match split? given with
  | some (_, []) => true
  | some (_, arguments) => isLiteral arguments
  | none => isLiteral given

end TypedVocabulary.Handler
