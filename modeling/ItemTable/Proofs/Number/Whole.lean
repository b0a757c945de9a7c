import ItemTable.Number
import ItemTable.Proofs.Number.Nearest
import Mathlib.Data.Nat.Cast.Field

set_option autoImplicit false

/-! # Whole numbers

A number without a fractional part is the integer that is left when it is truncated
(`Binary64.value_of_isIntegral`). Every integer up to 2⁵³ is a number, so it is the number nearest
to itself (`Binary64.IsNearest.value_eq`). What is beyond a number has no number before that nearest
to it (`Binary64.IsNearest.magnitude_le`), so rounding an integer leads neither way across 2⁵³
(`Binary64.IsNearest.truncate_eq`, `Binary64.IsNearest.natAbs_lt`). -/

namespace ItemTable

-- Powers are those of core, whatever else is imported.
attribute [local instance (high)] instPowNat

/-- The rational that a number of a document stands for. -/
def Number.value : Number → ℚ
  | .int i => i.val
  | .float x => x.value

namespace Binary64

variable {x : Binary64} {q : ℚ}

theorem abs_value (x : Binary64) : |x.value| = x.magnitude := by
  rw [value_eq, abs_signed _ x.magnitude_nonneg]

theorem magnitude_eq_div (x : Binary64) :
    x.magnitude = ((x.mant * 2 ^ x.exp.toNat : Nat) : ℚ) / ((2 ^ (-x.exp).toNat : Nat) : ℚ) := by
  unfold magnitude
  rw [mul_zpow_eq_div _ two_ne_zero]
  push_cast
  rfl

/-- A number without fractional part is what is left when it is truncated. -/
theorem value_of_isIntegral (h : x.isIntegral = true) : x.value = x.truncate := by
  have hdvd : 2 ^ (-x.exp).toNat ∣ x.mant * 2 ^ x.exp.toNat := by
    rw [isIntegral, Bool.or_eq_true, decide_eq_true_eq, beq_iff_eq] at h
    rcases h with hexp | hmod
    · have hzero : (-x.exp).toNat = 0 := by omega
      rw [hzero]
      exact Nat.one_dvd _
    · exact Nat.dvd_mul_right_of_dvd (Nat.dvd_of_mod_eq_zero hmod) _
  have hmagnitude : x.magnitude = ((x.mant * 2 ^ x.exp.toNat / 2 ^ (-x.exp).toNat : Nat) : ℚ) := by
    rw [magnitude_eq_div, Nat.cast_div hdvd]
    exact Nat.cast_ne_zero.2 (Nat.ne_of_gt (Nat.two_pow_pos _))
  rw [value_eq, hmagnitude]
  unfold signed truncate
  dsimp only
  split_ifs
  · rw [Int.cast_neg, Int.cast_natCast]
  · rw [Int.cast_natCast]

/-- A number that is an integer has no fractional part. -/
theorem isIntegral_of_value {z : Int} (h : x.value = z) : x.isIntegral = true := by
  rw [isIntegral, Bool.or_eq_true, decide_eq_true_eq, beq_iff_eq]
  refine or_iff_not_imp_left.2 fun hexp => ?_
  have hzero : x.exp.toNat = 0 := by omega
  have hmagnitude : x.magnitude = z.natAbs := by
    rw [← abs_value, h, Nat.cast_natAbs, Int.cast_abs]
  have hden : ((2 ^ (-x.exp).toNat : Nat) : ℚ) ≠ 0 :=
    Nat.cast_ne_zero.2 (Nat.ne_of_gt (Nat.two_pow_pos _))
  rw [magnitude_eq_div, div_eq_iff hden, hzero, Nat.pow_zero, Nat.mul_one] at hmagnitude
  have hmant : x.mant = z.natAbs * 2 ^ (-x.exp).toNat := by exact_mod_cast hmagnitude
  rw [hmant]
  exact Nat.mul_mod_left _ _

/-- Every natural up to 2⁵³ is the magnitude of a number. -/
theorem exists_magnitude_eq (neg : Bool) {n : Nat} (hn : n ≤ 2 ^ (53 : Nat)) :
    ∃ y : Binary64, y.neg = neg ∧ y.magnitude = n := by
  rcases Nat.eq_zero_or_pos n with rfl | hpos
  · exact ⟨zero neg, rfl, by simp [magnitude, zero]⟩
  · rcases Nat.lt_or_eq_of_le hn with hlt | rfl
    · -- the significand is filled up with zeros to 53 digits
      have hne : n ≠ 0 := Nat.ne_of_gt hpos
      have hlog : n.log2 < 53 := (Nat.log2_lt hne).2 hlt
      obtain ⟨k, hk⟩ : ∃ k, n.log2 + k = 52 := ⟨52 - n.log2, by omega⟩
      have hlow : 2 ^ (52 : Nat) ≤ n * 2 ^ k := by
        rw [← hk, Nat.pow_add]
        exact Nat.mul_le_mul_right _ (Nat.log2_self_le hne)
      have hhigh : n * 2 ^ k < 2 ^ (53 : Nat) := by
        have hsum : 53 = n.log2 + 1 + k := by omega
        rw [hsum, Nat.pow_add]
        exact Nat.mul_lt_mul_of_pos_right Nat.lt_log2_self (Nat.two_pow_pos _)
      refine ⟨⟨neg, n * 2 ^ k, -k, hhigh, by omega, by omega, .inl hlow⟩, rfl, ?_⟩
      have hpow : (2 : ℚ) ^ k ≠ 0 := pow_ne_zero _ two_ne_zero
      simp only [magnitude]
      rw [zpow_neg, zpow_natCast]
      push_cast
      field_simp
    · refine ⟨⟨neg, 2 ^ (52 : Nat), 1, by decide⟩, rfl, ?_⟩
      norm_num [magnitude]

theorem signed_abs (q : ℚ) : signed (decide (q < 0)) |q| = q := by
  unfold signed
  split_ifs with hlt
  · rw [abs_of_neg (of_decide_eq_true hlt), neg_neg]
  · exact abs_of_nonneg (not_lt.1 fun hneg => hlt (decide_eq_true hneg))

/-- Every integer up to 2⁵³ is a number. -/
theorem exists_value_eq {z : Int} (hz : z.natAbs ≤ 2 ^ (53 : Nat)) :
    ∃ y : Binary64, y.value = z := by
  obtain ⟨y, hneg, hmagnitude⟩ := exists_magnitude_eq (decide ((z : ℚ) < 0)) hz
  refine ⟨y, ?_⟩
  rw [value_eq, hneg, hmagnitude, Nat.cast_natAbs, Int.cast_abs]
  exact signed_abs z

/-- Nothing is nearer to a number than the number. -/
theorem IsNearest.value_eq {y : Binary64} (h : x.IsNearest y.value) : x.value = y.value := by
  have hzero := h y
  rw [sub_self, abs_zero] at hzero
  exact sub_eq_zero.1 (abs_eq_zero.1 (le_antisymm hzero (abs_nonneg _)))

/-- What is not below the magnitude of a number has no number below that nearest to it. -/
theorem IsNearest.magnitude_le (h : x.IsNearest q) (y : Binary64) (hq : y.magnitude ≤ |q|) :
    y.magnitude ≤ |x.value| := by
  -- of the two numbers of that magnitude, the one with the sign of what is rounded
  have hnear := h { y with neg := decide (q < 0) }
  have hvalue : ({ y with neg := decide (q < 0) } : Binary64).value =
      signed (decide (q < 0)) y.magnitude := Binary64.value_eq _
  have hdistance : |signed (decide (q < 0)) y.magnitude - q| = |q| - y.magnitude := by
    have hsame := abs_signed_sub_signed (decide (q < 0)) y.magnitude |q|
    rw [signed_abs q] at hsame
    rw [hsame, abs_sub_comm]
    exact abs_of_nonneg (sub_nonneg.2 hq)
  rw [hvalue, hdistance, abs_sub_comm] at hnear
  have htriangle := abs_sub_abs_le_abs_sub q x.value
  linarith

/-- A number nearest to an integer below 2⁵³ is the integer. -/
theorem IsNearest.truncate_eq {z : Int} (h : x.IsNearest z) (hz : z.natAbs < 2 ^ (53 : Nat)) :
    x.isIntegral = true ∧ x.truncate = z := by
  obtain ⟨y, hy⟩ := exists_value_eq (Nat.le_of_lt hz)
  rw [← hy] at h
  have hvalue : x.value = z := h.value_eq.trans hy
  have hintegral := isIntegral_of_value hvalue
  rw [value_of_isIntegral hintegral] at hvalue
  exact ⟨hintegral, Int.cast_injective hvalue⟩

/-- An integer that a whole number below 2⁵³ is nearest to is below 2⁵³ too. -/
theorem IsNearest.natAbs_lt {z : Int} (h : x.IsNearest z) (hintegral : x.isIntegral = true)
    (hless : x.truncate.natAbs < 2 ^ (53 : Nat)) : z.natAbs < 2 ^ (53 : Nat) := by
  by_contra hlarge
  obtain ⟨y, -, hy⟩ := exists_magnitude_eq false (Nat.le_refl (2 ^ (53 : Nat)))
  have hbound : ((2 ^ (53 : Nat) : Nat) : ℚ) ≤ |(z : ℚ)| := by
    rw [← Int.cast_abs, ← Nat.cast_natAbs]
    exact Nat.cast_le.2 (Nat.not_lt.1 hlarge)
  rw [← hy] at hbound
  have hfar := h.magnitude_le y hbound
  rw [hy, value_of_isIntegral hintegral, ← Int.cast_abs, ← Nat.cast_natAbs, Nat.cast_le] at hfar
  exact absurd hless (Nat.not_lt.2 hfar)

end Binary64

end ItemTable
