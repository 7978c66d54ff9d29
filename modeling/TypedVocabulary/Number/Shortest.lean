import TypedVocabulary.Number.Binary64

/-! # Shortest decimal text of a double

The written digits are the fewest that read back to the same double, and among those the nearest.
Each candidate is tested with the reader itself, and the exact expansion stands behind the search,
so what is written always reads back.
-/
namespace TypedVocabulary.Binary64

structure Decimal where
  digits : Nat
  power : Int
  deriving DecidableEq

namespace Decimal

def exponent (d : Decimal) : Int := (Nat.toDigits 10 d.digits).length - 1 + d.power

def trim : Nat → Decimal → Decimal
  | 0, d => d
  | fuel + 1, d =>
    if d.digits % 10 = 0 then trim fuel ⟨d.digits / 10, d.power + 1⟩ else d

def readsBack (d : Decimal) (m : Nat) (e : Int) : Bool :=
  match ofDecimal false d.digits d.power with
  | .finite _ m' e' _ => m' == m && e' == e
  | _ => false

end Decimal

def leadingPower (m : Nat) (e : Int) : Int :=
  let r := ratio m e
  (Nat.toDigits 10 (r.1 * Nat.pow 10 400 / r.2)).length - 401

/-- The better of the two neighbours with `count` digits that reads back. -/
def candidate (m : Nat) (e : Int) (count : Nat) : Option Decimal :=
  let power := leadingPower m e - count + 1
  let r := ratio m e
  let num := r.1 * Nat.pow 10 (-power).toNat
  let den := r.2 * Nat.pow 10 power.toNat
  let low : Decimal := ⟨num / den, power⟩
  let high : Decimal := ⟨num / den + 1, power⟩
  let rest := num % den
  let highIsNearer := den < 2 * rest || (2 * rest == den && (num / den) % 2 == 1)
  let first := if highIsNearer then high else low
  let second := if highIsNearer then low else high
  if first.readsBack m e then some (first.trim 20)
  else if second.readsBack m e then some (second.trim 20)
  else none

def expansion (m : Nat) (e : Int) : Decimal :=
  if 0 ≤ e then ⟨m * Nat.pow 2 e.toNat, 0⟩ else ⟨m * Nat.pow 5 (-e).toNat, e⟩

def shortest (m : Nat) (e : Int) : Decimal :=
  ((List.range 17).findSome? fun k =>
    (candidate m e (k + 1)).filter (·.readsBack m e)).getD (expansion m e)

/-- Positional between `10 ^ -4` and `10 ^ 16`, with `.0` after a whole number. Beyond, one digit
before the point and a signed exponent of two digits or more. -/
def Decimal.layout (d : Decimal) : List Char :=
  let ds := Nat.toDigits 10 d.digits
  let x := d.exponent
  if -4 ≤ x ∧ x < 16 then
    if 0 ≤ d.power then ds ++ List.replicate d.power.toNat '0' ++ ['.', '0']
    else if 0 ≤ x then ds.take (x + 1).toNat ++ '.' :: ds.drop (x + 1).toNat
    else '0' :: '.' :: List.replicate (-x - 1).toNat '0' ++ ds
  else
    let scale := Nat.toDigits 10 x.natAbs
    ds.take 1 ++ (if ds.length ≤ 1 then [] else '.' :: ds.drop 1) ++
      'e' :: (if x < 0 then '-' else '+') :: (if scale.length < 2 then '0' :: scale else scale)

def finiteText (negative : Bool) (m : Nat) (e : Int) : List Char :=
  (if negative then ['-'] else []) ++
    (if m = 0 then ['0', '.', '0'] else (shortest m e).layout)

end TypedVocabulary.Binary64
