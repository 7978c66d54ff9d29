import TypedVocabulary.Proofs.Number.Rounding

/-! # Digits that read back

A double is written with digits that the reader takes for it. The search tries each candidate, and the
exact expansion, which stands behind the search, cannot fail: its value is the double itself. A sign is
left aside meanwhile, as rounding does not look at it.
-/
namespace TypedVocabulary.Binary64

def withSign (negative : Bool) : Binary64 → Binary64
  | .finite _ m e h => .finite negative m e h
  | .infinite _ => .infinite negative
  | .nan => .nan

section
variable (negative : Bool)

theorem pack_eq_withSign (m : Nat) (e : Int) :
    pack negative m e = (pack false m e).withSign negative := by
  unfold pack
  split <;> rfl

theorem ofRatio_eq_withSign (num den : Nat) :
    ofRatio negative num den = (ofRatio false num den).withSign negative := by
  simp only [ofRatio, pack_eq_withSign negative]
  split
  · rfl
  · exact (apply_ite (withSign negative) _ _ _).symm

theorem ofDecimal_eq_withSign (digits : Nat) (power : Int) :
    ofDecimal negative digits power = (ofDecimal false digits power).withSign negative := by
  simp only [ofDecimal, ofRatio_eq_withSign negative, apply_ite (withSign negative)]
  rfl

theorem Decimal.ofDecimal_of_readsBack {d : Decimal} {m : Nat} {e : Int} (h : Canonical m e)
    (hback : d.readsBack m e = true) : ofDecimal negative d.digits d.power = .finite negative m e h := by
  unfold readsBack at hback
  split at hback
  · rename_i heq
    simp only [Bool.and_eq_true, beq_iff_eq] at hback
    obtain ⟨rfl, rfl⟩ := hback
    rw [ofDecimal_eq_withSign, heq, withSign]
  · cases hback

end

theorem le_log2_mul_pow {m b : Nat} (hm : 0 < m) (hb : 2 ≤ b) (k : Nat) : k ≤ (m * b ^ k).log2 := by
  have hpos : 0 < b ^ k := Nat.pow_pos (by omega)
  rw [Nat.le_log2 (Nat.mul_pos hm hpos).ne']
  calc 2 ^ k ≤ b ^ k := Nat.pow_le_pow_left hb k
    _ ≤ m * b ^ k := Nat.le_mul_of_pos_left _ hm

/-- Zeros may go from the digits of a large number to its power of ten. -/
theorem ofDecimal_mul_ten_pow {digits : Nat} {power : Int} (hleast : 0 ≤ power) (hmost : power ≤ 400)
    (k : Nat) (negative : Bool) :
    ofDecimal negative (digits * 10 ^ k) (power - k) = ofDecimal negative digits power := by
  rcases Nat.eq_zero_or_pos digits with rfl | hdigits
  · rw [Nat.zero_mul]
    rfl
  have hratio : ofRatio negative (digits * 10 ^ k * Nat.pow 10 (power - k).toNat)
        (Nat.pow 10 (-(power - k)).toNat) =
      ofRatio negative (digits * Nat.pow 10 power.toNat) (Nat.pow 10 (-power).toNat) := by
    refine ofRatio_congr (Nat.pow_pos (by decide)) (Nat.pow_pos (by decide)) ?_ negative
    have hstep : k + (power - k).toNat + (-power).toNat = power.toNat + (-(power - k)).toNat := by omega
    calc digits * 10 ^ k * 10 ^ (power - k).toNat * 10 ^ (-power).toNat
        = digits * 10 ^ (k + (power - k).toNat + (-power).toNat) := by ring
      _ = digits * 10 ^ power.toNat * 10 ^ (-(power - k)).toNat := by rw [hstep]; ring
  have hmore : digits * 10 ^ k ≠ 0 := (Nat.mul_pos hdigits (Nat.pow_pos (by decide))).ne'
  have hlog := le_log2_mul_pow hdigits (b := 10) (by decide) k
  have hfar : ¬ 400 < power - k := by omega
  have hfar' : ¬ 400 < power := by omega
  have hnear : ¬ power - k + ((digits * 10 ^ k).log2 : Int) < -400 := by omega
  have hnear' : ¬ power + (digits.log2 : Int) < -400 := by omega
  simp only [ofDecimal, if_neg hmore, if_neg hdigits.ne', if_neg hfar, if_neg hfar', if_neg hnear,
    if_neg hnear', hratio]

theorem readsBack_expansion {m : Nat} {e : Int} (hm : 0 < m) (h : Canonical m e) :
    (expansion m e).readsBack m e = true := by
  have hback (digits : Nat) (power : Int) (hdigits : 0 < digits) (hmost : power ≤ 0)
      (hleast : 0 ≤ power + digits.log2)
      (hvalue : ((digits * Nat.pow 10 power.toNat : Nat) : ℚ) / (Nat.pow 10 (-power).toNat : Nat) =
        scaled m e) :
      Decimal.readsBack ⟨digits, power⟩ m e = true := by
    have hpow : ¬ 400 < power := by omega
    have hsize : ¬ power + (digits.log2 : Int) < -400 := by omega
    have hexact : ofDecimal false digits power = .finite false m e h := by
      rw [ofDecimal, if_neg hdigits.ne', if_neg hpow, if_neg hsize]
      exact ofRatio_exact (Nat.pow_pos (by decide)) hm h hvalue false
    simp [Decimal.readsBack, hexact]
  unfold expansion
  split
  · rename_i he
    obtain ⟨n, rfl⟩ := Int.eq_ofNat_of_zero_le he
    refine hback _ 0 (Nat.mul_pos hm (Nat.pow_pos (by decide))) le_rfl (by omega) ?_
    simp [scaled]
  · rename_i he
    obtain ⟨k, rfl⟩ : ∃ k : Nat, e = -k := ⟨e.natAbs, by omega⟩
    have hdigits := le_log2_mul_pow hm (b := 5) (by decide) k
    have hfives : Nat.pow 5 (-(-k : Int)).toNat = 5 ^ k := by simp
    rw [hfives]
    refine hback _ (-k) (Nat.mul_pos hm (Nat.pow_pos (by decide))) (by omega) (by omega) ?_
    simp only [scaled, Int.toNat_neg_natCast, neg_neg, Int.toNat_natCast, Nat.pow_eq, pow_zero, mul_one,
      Nat.cast_mul, Nat.cast_pow, Nat.cast_ofNat, zpow_neg, zpow_natCast]
    rw [show (10 : ℚ) = 5 * 2 by norm_num, mul_pow]
    field_simp

/-- The digits of a double read back, whichever the search has found. -/
theorem readsBack_shortest {m : Nat} {e : Int} (hm : 0 < m) (h : Canonical m e) :
    (shortest m e).readsBack m e = true := by
  unfold shortest
  cases hsearch : (List.range 17).findSome? fun k => (candidate m e (k + 1)).filter (·.readsBack m e) with
  | none => exact readsBack_expansion hm h
  | some d =>
    obtain ⟨k, -, hcandidate⟩ := List.exists_of_findSome?_eq_some hsearch
    exact (Option.filter_eq_some_iff.mp hcandidate).2

theorem digits_shortest_pos {m : Nat} {e : Int} (hm : 0 < m) (h : Canonical m e) :
    0 < (shortest m e).digits := by
  by_contra hzero
  have hback := Decimal.ofDecimal_of_readsBack false h (readsBack_shortest hm h)
  rw [Nat.eq_zero_of_not_pos hzero] at hback
  cases hback
  exact hm.false

end TypedVocabulary.Binary64
