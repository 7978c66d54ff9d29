import Mathlib.Algebra.Order.Field.Power
import Mathlib.Algebra.Order.Field.Rat
import Mathlib.Data.Int.Log
import Mathlib.Data.Rat.Floor
import Mathlib.Tactic.FieldSimp
import Mathlib.Tactic.Positivity
import Mathlib.Tactic.Ring
import TypedVocabulary.Number.Shortest

/-! # Rounding of exact values

A finite double stands for a rational number. Rounding takes such a number to itself, whatever quotient
it is given by, so the exact decimal expansion of a double is read as that double. As the digits that are
written are tried with the reader first, they are read as that double, too.
-/
namespace TypedVocabulary.Binary64

/-- The number that a significand and an exponent stand for. -/
def scaled (m : Nat) (e : Int) : ℚ := m * 2 ^ e

/-- The number that a finite double stands for. -/
def toRat? : Binary64 → Option ℚ
  | .finite negative m e _ => some (if negative then -scaled m e else scaled m e)
  | _ => none

/-! ## Powers of two -/

theorem two_zpow_mul (k : Int) : (2 : ℚ) ^ k * 2 ^ (-k).toNat = 2 ^ k.toNat := by
  rcases Int.le_total 0 k with hk | hk
  · obtain ⟨n, rfl⟩ := Int.eq_ofNat_of_zero_le hk
    simp
  · obtain ⟨n, hn⟩ := Int.eq_ofNat_of_zero_le (Int.neg_nonneg_of_nonpos hk)
    obtain rfl : k = -(n : Int) := by omega
    simp

theorem ratio_eq (m : Nat) (e : Int) :
    ((ratio m e).1 : ℚ) = scaled m e * (ratio m e).2 := by
  have hpow := two_zpow_mul e
  simp only [ratio, Nat.pow_eq, Nat.cast_mul, Nat.cast_pow, Nat.cast_ofNat, scaled]
  rw [mul_assoc, hpow]

theorem ratio_pos (m : Nat) (e : Int) : 0 < (ratio m e).2 := Nat.pow_pos (by decide)

theorem scaled_nonneg (m : Nat) (e : Int) : 0 ≤ scaled m e := by
  unfold scaled
  positivity

theorem scaled_eq_natCast_iff {m : Nat} {e : Int} {n : Nat} :
    scaled m e = n ↔ (ratio m e).1 = n * (ratio m e).2 := by
  have hpos : ((ratio m e).2 : ℚ) ≠ 0 := Nat.cast_ne_zero.mpr (ratio_pos m e).ne'
  rw [← mul_left_inj' hpos, ← ratio_eq, ← Nat.cast_mul, Nat.cast_inj]

theorem scaled_eq_intCast_iff {m : Nat} {e n : Int} :
    scaled m e = n ↔
      (ratio m e).1 % (ratio m e).2 = 0 ∧ (((ratio m e).1 / (ratio m e).2 : Nat) : Int) = n := by
  constructor
  · intro hn
    have hnonneg : (0 : ℚ) ≤ n := hn ▸ scaled_nonneg m e
    obtain ⟨k, rfl⟩ := Int.eq_ofNat_of_zero_le (Int.cast_nonneg_iff.mp hnonneg)
    have hratio := scaled_eq_natCast_iff.mp (hn.trans (Int.cast_natCast k))
    rw [hratio, Nat.mul_mod_left, Nat.mul_div_cancel k (ratio_pos m e)]
    exact ⟨rfl, rfl⟩
  · rintro ⟨heven, rfl⟩
    rw [Int.cast_natCast, scaled_eq_natCast_iff, Nat.div_mul_cancel (Nat.dvd_of_mod_eq_zero heven)]

theorem toInt?_eq_some_iff {x : Binary64} {n : Int} : x.toInt? = some n ↔ x.toRat? = some (n : ℚ) := by
  cases x with
  | infinite negative | nan => simp [toInt?, toRat?]
  | finite negative m e h =>
    rw [toRat?, Option.some.injEq, toInt?]
    dsimp only
    cases negative with
    | true =>
      have hsign : -scaled m e = n ↔ scaled m e = ((-n : Int) : ℚ) := by
        rw [Int.cast_neg, neg_eq_iff_eq_neg]
      rw [if_pos rfl, if_pos rfl, hsign, scaled_eq_intCast_iff]
      split <;> simp_all [neg_eq_iff_eq_neg]
    | false =>
      rw [if_neg Bool.false_ne_true, if_neg Bool.false_ne_true, scaled_eq_intCast_iff]
      split <;> simp_all

/-- All finite doubles have at most that many binary digits in front of the point. -/
def wholeDigits : Nat := 1024

theorem natAbs_lt_of_toInt? {x : Binary64} {n : Int} (h : x.toInt? = some n) :
    n.natAbs < 2 ^ wholeDigits := by
  cases x with
  | infinite negative | nan => cases h
  | finite negative m e hcanonical =>
    have hquotient : (ratio m e).1 / (ratio m e).2 < 2 ^ wholeDigits := by
      obtain ⟨hm, -, he, -⟩ := hcanonical
      have hdigits : 53 + e.toNat ≤ wholeDigits := by
        unfold wholeDigits
        omega
      calc (ratio m e).1 / (ratio m e).2 ≤ m * 2 ^ e.toNat := Nat.div_le_self _ _
        _ < 2 ^ 53 * 2 ^ e.toNat := Nat.mul_lt_mul_of_pos_right hm (Nat.pow_pos (by decide))
        _ = 2 ^ (53 + e.toNat) := (Nat.pow_add ..).symm
        _ ≤ 2 ^ wholeDigits := Nat.pow_le_pow_right (by decide) hdigits
    rw [toInt?] at h
    dsimp only at h
    split at h
    · obtain rfl := Option.some.inj h
      split
      · rwa [Int.natAbs_neg, Int.natAbs_natCast]
      · rwa [Int.natAbs_natCast]
    · cases h

/-! ## Exact quotients -/

theorem lt_two_zpow_iff {num den : Nat} (hden : 0 < den) (k : Int) :
    num * Nat.pow 2 (-k).toNat < den * Nat.pow 2 k.toNat ↔ (num : ℚ) / den < 2 ^ k := by
  have hpos : (0 : ℚ) < den := Nat.cast_pos.mpr hden
  have hscale : (0 : ℚ) < 2 ^ (-k).toNat := by positivity
  rw [div_lt_iff₀ hpos, ← mul_lt_mul_iff_left₀ hscale, mul_right_comm, two_zpow_mul, mul_comm (2 ^ k.toNat : ℚ)]
  norm_cast

theorem log_eq {v : ℚ} {k : Int} (hlow : 2 ^ k ≤ v) (hhigh : v < 2 ^ (k + 1)) : Int.log 2 v = k := by
  have hpos : 0 < v := lt_of_lt_of_le (by positivity) hlow
  have hle : k ≤ Int.log 2 v := (Int.zpow_le_iff_le_log (by decide) hpos).mp (mod_cast hlow)
  have hlt : Int.log 2 v < k + 1 := (Int.lt_zpow_iff_log_lt (by decide) hpos).mp (mod_cast hhigh)
  omega

theorem log2_bounds {n : Nat} (hn : 0 < n) :
    (2 : ℚ) ^ (n.log2 : Int) ≤ n ∧ (n : ℚ) < 2 ^ ((n.log2 : Int) + 1) := by
  have hlow := Nat.log2_self_le hn.ne'
  have hhigh : n < 2 ^ (n.log2 + 1) := Nat.lt_log2_self
  constructor
  · rw [zpow_natCast]
    exact_mod_cast hlow
  · rw [← Nat.cast_succ, zpow_natCast]
    exact_mod_cast hhigh

/-- The largest power of two comes from the numbers of binary digits, but for one step. -/
theorem binade_eq {num den : Nat} (hnum : 0 < num) (hden : 0 < den) :
    binade num den = Int.log 2 ((num : ℚ) / den) := by
  have hpos : (0 : ℚ) < den := Nat.cast_pos.mpr hden
  obtain ⟨hnumLow, hnumHigh⟩ := log2_bounds hnum
  obtain ⟨hdenLow, hdenHigh⟩ := log2_bounds hden
  have hlow : (2 : ℚ) ^ ((num.log2 : Int) - den.log2 - 1) ≤ num / den := by
    rw [le_div_iff₀ hpos]
    calc (2 : ℚ) ^ ((num.log2 : Int) - den.log2 - 1) * den
        ≤ 2 ^ ((num.log2 : Int) - den.log2 - 1) * 2 ^ ((den.log2 : Int) + 1) := by gcongr
      _ = 2 ^ (num.log2 : Int) := by
        rw [← zpow_add₀ two_ne_zero]
        congr 1
        omega
      _ ≤ num := hnumLow
  have hhigh : (num : ℚ) / den < 2 ^ ((num.log2 : Int) - den.log2 + 1) := by
    rw [div_lt_iff₀ hpos]
    calc (num : ℚ) < 2 ^ ((num.log2 : Int) + 1) := hnumHigh
      _ = 2 ^ ((num.log2 : Int) - den.log2 + 1) * 2 ^ (den.log2 : Int) := by
        rw [← zpow_add₀ two_ne_zero]
        congr 1
        omega
      _ ≤ 2 ^ ((num.log2 : Int) - den.log2 + 1) * den := by gcongr
  unfold binade
  dsimp only
  split
  · rename_i hbelow
    rw [lt_two_zpow_iff hden] at hbelow
    exact (log_eq hlow (by rwa [sub_add_cancel])).symm
  · rename_i habove
    rw [lt_two_zpow_iff hden, not_lt] at habove
    exact (log_eq habove hhigh).symm

theorem roundDiv_mul_right (num den : Nat) {k : Nat} (hk : 0 < k) :
    roundDiv (num * k) (den * k) = roundDiv num den := by
  have hbelow (r : Nat) : 2 * (r * k) < den * k ↔ 2 * r < den := by
    rw [← Nat.mul_assoc, Nat.mul_lt_mul_right hk]
  have habove (r : Nat) : den * k < 2 * (r * k) ↔ den < 2 * r := by
    rw [← Nat.mul_assoc, Nat.mul_lt_mul_right hk]
  simp only [roundDiv, Nat.mul_div_mul_right _ _ hk, Nat.mul_mod_mul_right, hbelow, habove]

theorem roundDiv_congr {num den num' den' : Nat} (hden : 0 < den) (hden' : 0 < den')
    (h : num * den' = num' * den) : roundDiv num den = roundDiv num' den' := by
  rw [← roundDiv_mul_right num den hden', ← roundDiv_mul_right num' den' hden, h, Nat.mul_comm den]

theorem ofRatio_congr {num den num' den' : Nat} (hden : 0 < den) (hden' : 0 < den')
    (h : num * den' = num' * den) (negative : Bool) :
    ofRatio negative num den = ofRatio negative num' den' := by
  rcases Nat.eq_zero_or_pos num with rfl | hnum
  · have hzero : num' = 0 := by
      rw [Nat.zero_mul, eq_comm, Nat.mul_eq_zero] at h
      exact h.resolve_right hden.ne'
    rw [hzero]
    rfl
  have hnum' : 0 < num' := by
    have hpos : 0 < num' * den := h ▸ Nat.mul_pos hnum hden'
    exact Nat.pos_of_mul_pos_right hpos
  have hquotient : (num : ℚ) / den = num' / den' := by
    rw [div_eq_div_iff (Nat.cast_ne_zero.mpr hden.ne') (Nat.cast_ne_zero.mpr hden'.ne')]
    exact_mod_cast h
  have hbinade : binade num den = binade num' den' := by
    rw [binade_eq hnum hden, binade_eq hnum' hden', hquotient]
  have hround (a b : Nat) :
      roundDiv (num * Nat.pow 2 a) (den * Nat.pow 2 b) =
        roundDiv (num' * Nat.pow 2 a) (den' * Nat.pow 2 b) := by
    have hpow : 0 < Nat.pow 2 b := Nat.pow_pos (by decide)
    refine roundDiv_congr (Nat.mul_pos hden hpow) (Nat.mul_pos hden' hpow) ?_
    calc num * Nat.pow 2 a * (den' * Nat.pow 2 b)
        = num * den' * (Nat.pow 2 a * Nat.pow 2 b) := by ring
      _ = num' * den * (Nat.pow 2 a * Nat.pow 2 b) := by rw [h]
      _ = num' * Nat.pow 2 a * (den * Nat.pow 2 b) := by ring
  simp only [ofRatio, hnum.ne', hnum'.ne', if_false, hbinade, hround]

theorem roundDiv_mul (m : Nat) {den : Nat} (hden : 0 < den) : roundDiv (m * den) den = m := by
  simp [roundDiv, Nat.mul_div_cancel m hden, hden]

/-- A number that a double stands for is rounded to that double. -/
theorem ofRatio_exact {num den m : Nat} {e : Int} (hden : 0 < den) (hm : 0 < m) (h : Canonical m e)
    (hvalue : (num : ℚ) / den = scaled m e) (negative : Bool) :
    ofRatio negative num den = .finite negative m e h := by
  have hpos : (0 : ℚ) < den := Nat.cast_pos.mpr hden
  have hnum : 0 < num := by
    have hscaled : 0 < scaled m e := by
      unfold scaled
      positivity
    rw [← hvalue, div_pos_iff_of_pos_right hpos] at hscaled
    exact Nat.cast_pos.mp hscaled
  obtain ⟨hlow, hhigh⟩ := log2_bounds hm
  have hbinade : binade num den = m.log2 + e := by
    rw [binade_eq hnum hden, hvalue]
    refine log_eq ?_ ?_
    · rw [zpow_add₀ two_ne_zero, scaled]
      gcongr
    · rw [add_right_comm, zpow_add₀ two_ne_zero, scaled]
      gcongr
  have ⟨hbound, hleast, hmost, hnormal⟩ := h
  have hexponent : max (-1074) (binade num den - 52) = e := by
    have hdigits : m.log2 ≤ 52 := Nat.le_of_lt_succ ((Nat.log2_lt hm.ne').mpr hbound)
    by_cases hsmall : m < Nat.pow 2 52
    · have hfewer : m.log2 < 52 := (Nat.log2_lt hm.ne').mpr hsmall
      have hsubnormal := hnormal hsmall
      omega
    · have hfull : 52 ≤ m.log2 := (Nat.le_log2 hm.ne').mpr (not_lt.mp hsmall)
      omega
  have hcross : num * Nat.pow 2 (-e).toNat = m * (den * Nat.pow 2 e.toNat) := by
    have hpow := two_zpow_mul e
    rw [div_eq_iff hpos.ne', scaled] at hvalue
    have hcast : ((num * Nat.pow 2 (-e).toNat : Nat) : ℚ) = (m * (den * Nat.pow 2 e.toNat) : Nat) := by
      push_cast [Nat.pow_eq]
      rw [hvalue, ← hpow]
      ring
    exact_mod_cast hcast
  have hround : roundDiv (m * (den * Nat.pow 2 e.toNat)) (den * Nat.pow 2 e.toNat) = m :=
    roundDiv_mul m (Nat.mul_pos hden (Nat.pow_pos (by decide)))
  have hne : m ≠ Nat.pow 2 53 := hbound.ne
  unfold ofRatio
  dsimp only
  rw [if_neg hnum.ne', hexponent, hcross, hround, if_neg hne, pack, dif_pos h]

end TypedVocabulary.Binary64
