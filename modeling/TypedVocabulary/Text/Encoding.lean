/-! # Encodings of texts

A page comes as bytes. JSON starts with characters of ASCII, so the zeros among its first bytes tell
how wide its code units are and which byte of a unit comes first.
-/
namespace TypedVocabulary.Text

inductive Encoding
  | units8
  | units16 (bigEndian : Bool)
  | units32 (bigEndian : Bool)
  deriving DecidableEq

namespace Encoding

def ofFirstBytes? (bytes : List UInt8) : Option Encoding :=
  match (bytes.take 4).map (· == 0) with
  | [true, false, true, false] => some (.units16 true)
  | [false, true, false, true] => some (.units16 false)
  | [true, true, true, false] => some (.units32 true)
  | [false, true, true, true] => some (.units32 false)
  | zeros => if zeros.contains true then none else some .units8

def number (bigEndian : Bool) (bytes : List UInt8) : Nat :=
  (if bigEndian then bytes else bytes.reverse).foldl (fun n b => n * 256 + b.toNat) 0

/-- The units of two bytes; no byte may be left over. -/
def units16? (bigEndian : Bool) : List UInt8 → Option (List Nat)
  | [] => some []
  | a :: b :: rest => (units16? bigEndian rest).map (number bigEndian [a, b] :: ·)
  | [_] => none

def units32? (bigEndian : Bool) : List UInt8 → Option (List Nat)
  | [] => some []
  | a :: b :: c :: d :: rest =>
    (units32? bigEndian rest).map (number bigEndian [a, b, c, d] :: ·)
  | _ => none

def char? (n : Nat) : Option Char := if n.isValidChar then some (Char.ofNat n) else none

def isHigh (n : Nat) : Bool := 0xD800 ≤ n && n < 0xDC00

def isLow (n : Nat) : Bool := 0xDC00 ≤ n && n < 0xE000

/-- The characters of units, a high and a low one being one character. -/
def joinUnits? : List Nat → Option (List Char)
  | [] => some []
  | n :: rest =>
    if isHigh n then
      match rest with
      | m :: rest =>
        if isLow m then
          (joinUnits? rest).map (Char.ofNat (0x10000 + (n - 0xD800) * 0x400 + (m - 0xDC00)) :: ·)
        else none
      | [] => none
    else do return (← char? n) :: (← joinUnits? rest)

def decode? (bytes : List UInt8) : Encoding → Option (List Char)
  | units8 => (String.fromUTF8? ⟨bytes.toArray⟩).map String.toList
  | units16 bigEndian => do joinUnits? (← units16? bigEndian bytes)
  | units32 bigEndian => do (← units32? bigEndian bytes).mapM char?

end Encoding
end TypedVocabulary.Text
