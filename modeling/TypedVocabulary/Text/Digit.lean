import TypedVocabulary.Text.Range
import TypedVocabulary.Text.Slice

/-! # Numbers in words of a command

Decimal digits come in runs of ten, one run for each script. A whole number is written with a sign,
with single underscores between digits and with space around it, if at all.
-/
namespace TypedVocabulary.Text

/-- The digits for zero, by the decimal digits of Unicode 14. -/
def zeroDigits : List Nat :=
  [0x30, 0x660, 0x6F0, 0x7C0, 0x966, 0x9E6, 0xA66, 0xAE6, 0xB66, 0xBE6, 0xC66, 0xCE6, 0xD66,
   0xDE6, 0xE50, 0xED0, 0xF20, 0x1040, 0x1090, 0x17E0, 0x1810, 0x1946, 0x19D0, 0x1A80, 0x1A90,
   0x1B50, 0x1BB0, 0x1C40, 0x1C50, 0xA620, 0xA8D0, 0xA900, 0xA9D0, 0xA9F0, 0xAA50, 0xABF0, 0xFF10,
   0x104A0, 0x10D30, 0x11066, 0x110F0, 0x11136, 0x111D0, 0x112F0, 0x11450, 0x114D0, 0x11650,
   0x116C0, 0x11730, 0x118E0, 0x11950, 0x11C50, 0x11D50, 0x11DA0, 0x16A60, 0x16AC0, 0x16B50,
   0x1D7CE, 0x1D7D8, 0x1D7E2, 0x1D7EC, 0x1D7F6, 0x1E140, 0x1E2F0, 0x1E950, 0x1FBF0]

def digitValue? (c : Char) : Option Nat :=
  (zeroDigits.find? fun z => z ≤ c.toNat && c.toNat < z + 10).map (c.toNat - ·)

def isDecimalDigit (c : Char) : Bool := (digitValue? c).isSome

def spaceRanges : List (Nat × Nat) :=
  [(0x9, 0xD), (0x1C, 0x20), (0x85, 0x85), (0xA0, 0xA0), (0x1680, 0x1680), (0x2000, 0x200A),
   (0x2028, 0x2029), (0x202F, 0x202F), (0x205F, 0x205F), (0x3000, 0x3000)]

def isSpace (c : Char) : Bool := inRanges spaceRanges c.toNat

/-- The separators of ASCII are no space around numbers. -/
def isNumberSpace (c : Char) : Bool := isSpace c && !(0x1C ≤ c.toNat && c.toNat ≤ 0x1F)

def maxDigits : Nat := 4300

/-- The value of digits, of which every two may have an underscore between them. At most `count`
digits are read. -/
def digitsValue? (count value : Nat) : List Char → Option Nat
  | [] => none
  | c :: cs =>
    match count, digitValue? c with
    | count + 1, some d =>
      match cs with
      | [] => some (value * 10 + d)
      | '_' :: rest => digitsValue? count (value * 10 + d) rest
      | rest => digitsValue? count (value * 10 + d) rest
    | _, _ => none

def unsignedNumber? (cs : List Char) : Option Nat := digitsValue? maxDigits 0 cs

def wholeNumber? (s : String) : Option Int :=
  match trim isNumberSpace s.toList with
  | '-' :: cs => (unsignedNumber? cs).map fun n => -(n : Int)
  | '+' :: cs => (unsignedNumber? cs).map Int.ofNat
  | cs => (unsignedNumber? cs).map Int.ofNat

def isUnsignedNumber (cs : List Char) : Bool :=
  match cut? '.' cs with
  | none => !cs.isEmpty && cs.all isDecimalDigit
  | some (whole, decimals) =>
    whole.all isDecimalDigit && !decimals.isEmpty && decimals.all isDecimalDigit

def dropLineFeed (cs : List Char) : List Char :=
  match cs.reverse with
  | '\n' :: rest => rest.reverse
  | _ => cs

/-- A negative number; a line feed may end it. -/
def isNegativeNumber : List Char → Bool
  | '-' :: cs => isUnsignedNumber (dropLineFeed cs)
  | _ => false

end TypedVocabulary.Text
