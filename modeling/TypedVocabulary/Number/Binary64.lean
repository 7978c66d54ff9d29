/-! # Binary64 numbers

A finite double is kept as sign, significand and exponent in canonical form, so that equal numbers
have equal data. Values enter through `ofRatio`, which rounds an exact quotient to the nearest
double with ties to the even significand; all arithmetic is exact on natural numbers.
-/
namespace TypedVocabulary

/-- Significands are normal, or subnormal at the least exponent. -/
def Binary64.Canonical (m : Nat) (e : Int) : Prop :=
  m < Nat.pow 2 53 ∧ -1074 ≤ e ∧ e ≤ 971 ∧ (m < Nat.pow 2 52 → e = -1074)

instance (m : Nat) (e : Int) : Decidable (Binary64.Canonical m e) := by
  unfold Binary64.Canonical; infer_instance

inductive Binary64
  | finite (negative : Bool) (m : Nat) (e : Int) (canonical : Binary64.Canonical m e)
  | infinite (negative : Bool)
  | nan
  deriving DecidableEq

namespace Binary64

/-- Significand and exponent out of range overflow to infinity. -/
def pack (negative : Bool) (m : Nat) (e : Int) : Binary64 :=
  if h : Canonical m e then .finite negative m e h else .infinite negative

def zero (negative : Bool) : Binary64 := .finite negative 0 (-1074) (by decide)

/-- The nearest natural number to a quotient, a half going to the even neighbour. -/
def roundDiv (num den : Nat) : Nat :=
  let q := num / den
  let r := num % den
  if 2 * r < den then q else if den < 2 * r then q + 1 else q + q % 2

def binade (num den : Nat) : Int :=
  let k : Int := (num.log2 : Int) - den.log2
  if num * Nat.pow 2 (-k).toNat < den * Nat.pow 2 k.toNat then k - 1 else k

def ofRatio (negative : Bool) (num den : Nat) : Binary64 :=
  if num = 0 then zero negative else
    let e := max (-1074) (binade num den - 52)
    let m := roundDiv (num * Nat.pow 2 (-e).toNat) (den * Nat.pow 2 e.toNat)
    if m = Nat.pow 2 53 then pack negative (Nat.pow 2 52) (e + 1) else pack negative m e

/-- The double nearest to `digits · 10 ^ power`. Numbers far outside the range are settled by
their size, so that a long exponent costs nothing. -/
def ofDecimal (negative : Bool) (digits : Nat) (power : Int) : Binary64 :=
  if digits = 0 then zero negative
  else if 400 < power then .infinite negative
  else if power + digits.log2 < -400 then zero negative
  else ofRatio negative (digits * Nat.pow 10 power.toNat) (Nat.pow 10 (-power).toNat)

def isZero : Binary64 → Bool
  | .finite _ 0 _ _ => true
  | _ => false

def ratio (m : Nat) (e : Int) : Nat × Nat := (m * Nat.pow 2 e.toNat, Nat.pow 2 (-e).toNat)

def toInt? : Binary64 → Option Int
  | .finite negative m e _ =>
    let r := ratio m e
    if r.1 % r.2 = 0 then
      let n : Int := (r.1 / r.2 : Nat)
      some (if negative then -n else n)
    else none
  | _ => none

def compareInt : Binary64 → Int → Option Ordering
  | .finite negative m e _, n =>
    let r := ratio m e
    let x : Int := if negative then -(r.1 : Int) else r.1
    some (compare x (n * r.2))
  | .infinite negative, _ => some (if negative then .lt else .gt)
  | .nan, _ => none

/-- Equality of values: zeros of both signs are equal and a NaN equals nothing. -/
def sameValue : Binary64 → Binary64 → Bool
  | .nan, _ => false
  | _, .nan => false
  | x, y => decide (x = y) || (x.isZero && y.isZero)

end Binary64
end TypedVocabulary
