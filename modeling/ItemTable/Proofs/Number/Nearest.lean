import ItemTable.Proofs.Number.Rounding
import Mathlib.Algebra.Order.Field.Power
import Mathlib.Algebra.Order.Ring.Rat
import Mathlib.Data.Rat.Cast.Order
import Mathlib.Tactic.FieldSimp
import Mathlib.Tactic.Linarith
import Mathlib.Tactic.Positivity

set_option autoImplicit false

/-! # The value of a number, and the nearest number to a value

A `Binary64` stands for a rational, its `value`. What a quotient or a decimal is rounded to has it
in its interval (`Binary64.encloses_of_ofDecimal`), and no other number is nearer to what is in that
interval (`Binary64.Encloses.isNearest`). So reading a decimal gives a number nearest to it
(`Binary64.isNearest_of_ofDecimal`). -/

namespace ItemTable

-- Powers are those of core, whatever else is imported.
attribute [local instance (high)] instPowNat

/-- A magnitude with a sign. -/
def signed (neg : Bool) (magnitude : ℚ) : ℚ := if neg then -magnitude else magnitude

theorem abs_signed (neg : Bool) {magnitude : ℚ} (h : 0 ≤ magnitude) :
    |signed neg magnitude| = magnitude := by
  cases neg with
  | false => exact abs_of_nonneg h
  | true => exact (abs_neg _).trans (abs_of_nonneg h)

/-- Numbers with signs are no nearer to each other than their magnitudes, and as near if the signs
are the same. -/
theorem abs_signed_sub_signed (neg : Bool) (a b : ℚ) :
    |signed neg a - signed neg b| = |a - b| := by
  cases neg with
  | false => rfl
  | true =>
    change |-a - -b| = |a - b|
    rw [neg_sub_neg, abs_sub_comm]

theorem abs_sub_le_abs_signed_sub_signed (neg neg' : Bool) {a b : ℚ} (ha : 0 ≤ a) (hb : 0 ≤ b) :
    |a - b| ≤ |signed neg a - signed neg' b| := by
  have habs := abs_abs_sub_abs_le (signed neg a) (signed neg' b)
  rwa [abs_signed neg ha, abs_signed neg' hb] at habs

/-- A power with a negative exponent is made whole by the same power with the exponent turned. -/
theorem zpow_mul_pow_toNat {b : ℚ} (hb : b ≠ 0) (e : ℤ) :
    b ^ e * b ^ (-e).toNat = b ^ e.toNat := by
  rw [← zpow_natCast, ← zpow_natCast, ← zpow_add₀ hb]
  congr 1
  omega

/-- A quotient is scaled as its numerator and denominator are. -/
theorem mul_zpow_eq_div (n : ℚ) {b : ℚ} (hb : b ≠ 0) (e : ℤ) :
    n * b ^ e = n * b ^ e.toNat / b ^ (-e).toNat := by
  rw [← zpow_mul_pow_toNat hb e, ← mul_assoc, mul_div_assoc, div_self (pow_ne_zero _ hb), mul_one]

namespace Binary64

variable {x y : Binary64} {neg : Bool} {num den : Nat}

/-- The magnitude of a number. -/
def magnitude (x : Binary64) : ℚ := x.mant * 2 ^ x.exp

/-- The rational that a number stands for. -/
def value (x : Binary64) : ℚ := x.coef * 2 ^ x.exp

/-- No other number is nearer. -/
def IsNearest (x : Binary64) (q : ℚ) : Prop := ∀ y : Binary64, |x.value - q| ≤ |y.value - q|

theorem value_eq (x : Binary64) : x.value = signed x.neg x.magnitude := by
  unfold value coef signed magnitude
  split_ifs
  · push_cast
    ring
  · push_cast
    rfl

theorem magnitude_nonneg (x : Binary64) : 0 ≤ x.magnitude := by
  unfold magnitude
  positivity

/-! ## Rounding stays in the interval -/

/-- The nearest natural is within a half of the quotient, and even if it is just a half off. -/
theorem roundQuotient_spec {m : Nat} (hden : 0 < den) (h : roundQuotient num den = m) :
    2 * (m * den) ≤ 2 * num + den ∧ 2 * num ≤ 2 * (m * den) + den ∧
      (m % 2 = 1 → 2 * (m * den) < 2 * num + den ∧ 2 * num < 2 * (m * den) + den) := by
  have hdiv : num / den * den + num % den = num := Nat.div_add_mod' num den
  have hmod : num % den < den := Nat.mod_lt num hden
  have hsucc : (num / den + 1) * den = num / den * den + den := Nat.succ_mul _ _
  subst h
  unfold roundQuotient
  dsimp only
  split_ifs
  · omega
  · rw [hsucc]
    omega
  · omega
  · rw [hsucc]
    omega

/-- A quotient that is rounded to a number's significand is in the number's interval, if it is not
below a power of two. -/
theorem encloses_of_roundQuotient (hden : den ≠ 0)
    (hround : roundQuotient (num * 2 ^ (-x.exp).toNat) (den * 2 ^ x.exp.toNat) = x.mant)
    (hge : x.exp = -1074 ∨
      2 ^ (52 : Nat) * (den * 2 ^ x.exp.toNat) ≤ num * 2 ^ (-x.exp).toNat) :
    x.Encloses num den := by
  have hpos : 0 < den * 2 ^ x.exp.toNat := Nat.mul_pos (Nat.pos_of_ne_zero hden) (Nat.two_pow_pos _)
  obtain ⟨hlow, hhigh, hodd⟩ := roundQuotient_spec hpos hround
  have hgap := x.lowerGap_cases
  obtain ⟨n, hn⟩ : ∃ n, n = num * 2 ^ (-x.exp).toNat := ⟨_, rfl⟩
  obtain ⟨d, hd⟩ : ∃ d, d = den * 2 ^ x.exp.toNat := ⟨_, rfl⟩
  rw [← hn, ← hd] at hlow hhigh hodd hge
  rw [← hd] at hpos
  have hmul : (4 * x.mant + 2) * d = 4 * (x.mant * d) + 2 * d := by ring
  have hlower : (4 * x.mant - x.lowerGap) * d ≤ 4 * n ∧
      (x.mant % 2 = 1 → (4 * x.mant - x.lowerGap) * d < 4 * n) := by
    rcases hgap with ⟨hgap, hmant, hexp⟩ | ⟨hgap, -⟩
    · -- a power of two, which the quotient is not below
      rw [hgap, hmant]
      omega
    · by_cases hzero : x.mant = 0
      · simp [hzero]
      · have hsub : (4 * x.mant - x.lowerGap) * d + 2 * d = 4 * (x.mant * d) := by
          rw [hgap, ← Nat.add_mul, Nat.sub_add_cancel (by omega), Nat.mul_assoc]
        omega
  refine ⟨?_, ?_, fun hmant => ⟨?_, ?_⟩⟩ <;> rw [← hn, ← hd]
  · exact hlower.1
  · omega
  · exact hlower.2 hmant
  · have hinside := hodd hmant
    omega

/-- What is at most half of the least positive number is in the interval of zero. -/
theorem encloses_zero (neg : Bool) (h : num * 2 ^ (1074 : Nat) * 2 ≤ den) :
    (zero neg).Encloses num den := by
  have hmant : (zero neg).mant = 0 := rfl
  have hnum : (-(zero neg).exp).toNat = 1074 := rfl
  have hden : (zero neg).exp.toNat = 0 := rfl
  refine ⟨?_, ?_, fun hodd => ?_⟩
  · rw [hmant, Nat.mul_zero, Nat.zero_sub, Nat.zero_mul]
    exact Nat.zero_le _
  · rw [hmant, hnum, hden, Nat.pow_zero]
    generalize 2 ^ (1074 : Nat) = unit at h ⊢
    omega
  · rw [hmant] at hodd
    cases hodd

/-- What a quotient is rounded to has it in its interval. -/
theorem encloses_of_ofRatio (hden : den ≠ 0) (h : ofRatio neg num den = some x) :
    x.neg = neg ∧ x.Encloses num den := by
  unfold ofRatio at h
  split at h
  · next hnum =>
    cases h
    refine ⟨rfl, encloses_zero neg ?_⟩
    generalize 2 ^ (1074 : Nat) = unit
    simp [hnum]
  · next hnum =>
    dsimp only at h
    obtain ⟨e, he⟩ : ∃ e, roundingExponent num den = e := ⟨_, rfl⟩
    obtain ⟨hleast, hlt, hge⟩ := roundingExponent_spec hnum hden he
    obtain ⟨m, hm⟩ : ∃ m, roundQuotient (num * 2 ^ (-e).toNat) (den * 2 ^ e.toNat) = m := ⟨_, rfl⟩
    rw [he, hm] at h
    by_cases hcarry : m = 2 ^ (53 : Nat)
    · -- the quotient is rounded up to the next power of two, one exponent higher
      rw [if_pos hcarry, if_pos hcarry] at h
      split at h
      · next hcanonical =>
        cases h
        have hpos : 0 < den * 2 ^ e.toNat :=
          Nat.mul_pos (Nat.pos_of_ne_zero hden) (Nat.two_pow_pos _)
        obtain ⟨hlow, -, -⟩ := roundQuotient_spec hpos hm
        have hstep := scale_succ num den e
        have hgap : (⟨neg, 2 ^ (52 : Nat), e + 1, hcanonical⟩ : Binary64).lowerGap = 1 :=
          if_pos ⟨rfl, Int.lt_add_one_of_le hleast⟩
        rw [hcarry] at hlow
        refine ⟨rfl, ?_, ?_, fun hodd => ?_⟩
        · rw [hgap]
          dsimp only
          omega
        · dsimp only
          omega
        · exact absurd hodd (show ¬ 2 ^ (52 : Nat) % 2 = 1 by decide)
      · cases h
    · rw [if_neg hcarry, if_neg hcarry] at h
      split at h
      · cases h
        exact ⟨rfl, encloses_of_roundQuotient hden hm hge⟩
      · cases h

/-- What a decimal is rounded to has it in its interval. -/
theorem encloses_of_ofDecimal {coef : Nat} {exp : Int} (h : ofDecimal neg coef exp = some x) :
    x.neg = neg ∧ x.Encloses (coef * 10 ^ exp.toNat) (10 ^ (-exp).toNat) := by
  have hden := ten_pow_ne_zero (-exp).toNat
  unfold ofDecimal at h
  dsimp only at h
  split at h
  · next hcoef =>
    subst hcoef
    refine encloses_of_ofRatio hden ?_
    rwa [Nat.zero_mul, ofRatio, if_pos rfl]
  · split at h
    · cases h
    · split at h
      · next hsmall =>
        -- below a one at the 325th place there is less than half of the least positive number
        cases h
        have hvalue := decimal_lt coef 325 exp (by omega)
        have hbound : 2 * 2 ^ (1074 : Nat) ≤ 10 ^ (325 : Nat) := by decide +kernel
        generalize 10 ^ (325 : Nat) = bound at hvalue hbound
        refine ⟨rfl, encloses_zero neg (Nat.le_of_lt (Nat.lt_of_le_of_lt ?_ hvalue))⟩
        generalize 2 ^ (1074 : Nat) = unit at hbound ⊢
        calc coef * 10 ^ exp.toNat * unit * 2 = 2 * unit * (coef * 10 ^ exp.toNat) := by ring
          _ ≤ bound * (coef * 10 ^ exp.toNat) := Nat.mul_le_mul_right _ hbound
      · exact encloses_of_ofRatio hden h

/-! ## The interval holds what is nearest -/

/-- The interval of a number as an interval of rationals. -/
theorem Encloses.bounds (hden : den ≠ 0) (h : x.Encloses num den) :
    4 * x.magnitude ≤ 4 * (num / den : ℚ) + x.lowerGap * 2 ^ x.exp ∧
      4 * (num / den : ℚ) ≤ 4 * x.magnitude + 2 * 2 ^ x.exp := by
  obtain ⟨q, hq⟩ : ∃ q : ℚ, q = num / den := ⟨_, rfl⟩
  have hden' : (0 : ℚ) < den := Nat.cast_pos.2 (Nat.pos_of_ne_zero hden)
  have hscale : (0 : ℚ) < den * 2 ^ (-x.exp).toNat := by positivity
  have hnum : (num : ℚ) = q * den := by
    rw [hq, div_mul_cancel₀ _ (ne_of_gt hden')]
  have hunit := zpow_mul_pow_toNat (two_ne_zero (α := ℚ)) x.exp
  have hlow : ((4 * x.mant - x.lowerGap : Nat) * (den * 2 ^ x.exp.toNat) : ℚ) ≤
      4 * (num * 2 ^ (-x.exp).toNat) := by exact_mod_cast h.low
  have hhigh : (4 * (num * 2 ^ (-x.exp).toNat) : ℚ) ≤
      (4 * x.mant + 2) * (den * 2 ^ x.exp.toNat) := by exact_mod_cast h.high
  have hsub : (4 * x.mant : ℚ) ≤ (4 * x.mant - x.lowerGap : Nat) + x.lowerGap := by
    have hnat : 4 * x.mant ≤ 4 * x.mant - x.lowerGap + x.lowerGap := by omega
    exact_mod_cast hnat
  rw [← hq]
  rw [hnum, ← hunit] at hlow hhigh
  have hlow' : ((4 * x.mant - x.lowerGap : Nat) : ℚ) * 2 ^ x.exp ≤ 4 * q :=
    le_of_mul_le_mul_right (by linarith) hscale
  have hhigh' : 4 * q ≤ (4 * x.mant + 2) * 2 ^ x.exp :=
    le_of_mul_le_mul_right (by linarith) hscale
  have hpos : (0 : ℚ) < 2 ^ x.exp := by positivity
  unfold magnitude
  constructor
  · have hmul := mul_le_mul_of_nonneg_right hsub (le_of_lt hpos)
    linarith
  · linarith

/-- One exponent up a last digit counts twice as much. -/
theorem two_mul_zpow_le {e f : Int} (h : e < f) : 2 * (2 : ℚ) ^ e ≤ 2 ^ f := by
  have hstep : (2 : ℚ) ^ (e + 1) = 2 ^ e * 2 := zpow_add_one₀ two_ne_zero _
  have hle : (2 : ℚ) ^ (e + 1) ≤ 2 ^ f := zpow_le_zpow_right₀ one_le_two h
  linarith

/-- Two magnitudes are equal, or the one is a last digit of the other above it, or as far below it
as the next number there. -/
theorem magnitude_gap (x y : Binary64) :
    y.magnitude = x.magnitude ∨ x.magnitude + 2 ^ x.exp ≤ y.magnitude ∨
      2 * y.magnitude + x.lowerGap * 2 ^ x.exp ≤ 2 * x.magnitude := by
  obtain ⟨hmant, hleast, -, hnormal⟩ := x.canonical
  obtain ⟨hmant', hleast', -, hnormal'⟩ := y.canonical
  have hgap := x.lowerGap_cases
  have hunit : (0 : ℚ) < 2 ^ x.exp := by positivity
  have hunit' : (0 : ℚ) < 2 ^ y.exp := by positivity
  unfold magnitude
  rcases Int.lt_trichotomy y.exp x.exp with hless | heq | hmore
  · -- all numbers of a lower exponent are below
    refine .inr (.inr ?_)
    have hpow := two_mul_zpow_le hless
    have hmants : y.mant + x.lowerGap ≤ 2 * x.mant := by omega
    have hcast : (y.mant + x.lowerGap : ℚ) ≤ 2 * x.mant := by exact_mod_cast hmants
    calc 2 * (y.mant * (2 : ℚ) ^ y.exp) + x.lowerGap * 2 ^ x.exp
        = y.mant * (2 * (2 : ℚ) ^ y.exp) + x.lowerGap * 2 ^ x.exp := by ring
      _ ≤ y.mant * 2 ^ x.exp + x.lowerGap * 2 ^ x.exp := by gcongr
      _ = (y.mant + x.lowerGap) * 2 ^ x.exp := by ring
      _ ≤ 2 * x.mant * 2 ^ x.exp := by gcongr
      _ = 2 * (x.mant * 2 ^ x.exp) := by ring
  · -- at one exponent the significands decide
    rw [heq]
    rcases Nat.lt_trichotomy y.mant x.mant with hlt | hsame | hgt
    · have hmants : 2 * y.mant + x.lowerGap ≤ 2 * x.mant := by omega
      have hcast : (2 * y.mant + x.lowerGap : ℚ) ≤ 2 * x.mant := by exact_mod_cast hmants
      have hmul := mul_le_mul_of_nonneg_right hcast (le_of_lt hunit)
      exact .inr (.inr (by linarith))
    · exact .inl (by rw [hsame])
    · have hcast : (x.mant + 1 : ℚ) ≤ y.mant := by exact_mod_cast hgt
      have hmul := mul_le_mul_of_nonneg_right hcast (le_of_lt hunit)
      exact .inr (.inl (by linarith))
  · -- all numbers of a higher exponent are above
    refine .inr (.inl ?_)
    have hpow := two_mul_zpow_le hmore
    have hmants : x.mant + 1 ≤ 2 * y.mant := by omega
    have hcast : (x.mant + 1 : ℚ) ≤ 2 * y.mant := by exact_mod_cast hmants
    calc x.mant * (2 : ℚ) ^ x.exp + 2 ^ x.exp = (x.mant + 1) * (2 : ℚ) ^ x.exp := by ring
      _ ≤ 2 * y.mant * 2 ^ x.exp := by gcongr
      _ = y.mant * (2 * 2 ^ x.exp) := by ring
      _ ≤ y.mant * 2 ^ y.exp := by gcongr

/-- No number is nearer to what is in the interval of a number, whatever its sign. -/
theorem Encloses.isNearest (hden : den ≠ 0) (h : x.Encloses num den) :
    x.IsNearest (signed x.neg (num / den)) := by
  intro y
  obtain ⟨hlow, hhigh⟩ := h.bounds hden
  have hgap := magnitude_gap x y
  have hq : (0 : ℚ) ≤ num / den := by positivity
  rw [value_eq, value_eq, abs_signed_sub_signed]
  refine le_trans ?_ (abs_sub_le_abs_signed_sub_signed _ _ y.magnitude_nonneg hq)
  generalize (num / den : ℚ) = q at hlow hhigh
  have hpos : (0 : ℚ) < 2 ^ x.exp := by positivity
  rcases hgap with heq | habove | hbelow
  · rw [heq]
  · refine le_trans (abs_le.2 ⟨?_, ?_⟩) (le_abs_self _)
    · linarith
    · linarith
  · refine le_trans (abs_le.2 ⟨?_, ?_⟩) (neg_le_abs _)
    · have hnonneg : (0 : ℚ) ≤ x.lowerGap * 2 ^ x.exp := by positivity
      linarith
    · linarith

/-- A decimal is read as a number nearest to it. -/
theorem isNearest_of_ofDecimal {coef : Nat} {exp : Int} (h : ofDecimal neg coef exp = some x) :
    x.IsNearest (signed neg (coef * 10 ^ exp)) := by
  obtain ⟨rfl, hencloses⟩ := encloses_of_ofDecimal h
  have hden := ten_pow_ne_zero (-exp).toNat
  have hnearest := hencloses.isNearest hden
  rw [mul_zpow_eq_div _ (by norm_num)]
  push_cast at hnearest
  exact hnearest

end Binary64

end ItemTable
