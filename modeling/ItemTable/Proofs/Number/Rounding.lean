import ItemTable.Number.Shortest
import Mathlib.Tactic.Ring

set_option autoImplicit false

/-! # Quotients and decimals that round to a number

A positive quotient is rounded at the exponent at which it has 53 binary digits before the point,
and there is one such exponent only (`Binary64.roundingExponent_eq`). So all quotients in the
interval around a number, closed at its ends iff the significand is even, have that number as the
nearest one (`Binary64.ofRatio_of_encloses`), and so have the decimals there
(`Binary64.ofDecimal_of_encloses`). -/

namespace ItemTable

-- Powers are those of core, whatever else is imported.
attribute [local instance (high)] instPowNat

theorem ten_pow_ne_zero (n : Nat) : 10 ^ n ≠ 0 := Nat.ne_of_gt (Nat.pow_pos (by decide))

/-- A quotient that is within a half of a natural is rounded to it, if it is not a tie or the
natural is even. -/
theorem roundQuotient_eq {num den m : Nat} (hden : 0 < den)
    (hlow : 2 * (m * den) ≤ 2 * num + den) (hhigh : 2 * num ≤ 2 * (m * den) + den)
    (hodd : m % 2 = 1 → 2 * (m * den) < 2 * num + den ∧ 2 * num < 2 * (m * den) + den) :
    roundQuotient num den = m := by
  have hdiv : num / den * den + num % den = num := Nat.div_add_mod' num den
  have hmod : num % den < den := Nat.mod_lt num hden
  have hsucc : (num / den + 1) * den = num / den * den + den := Nat.succ_mul _ _
  -- only the two naturals around the quotient are within a half of it
  have hm : m = num / den ∨ m = num / den + 1 := by
    have hle : m ≤ num / den + 1 := by
      by_contra hgt
      have hmul : (num / den + 2) * den ≤ m * den := Nat.mul_le_mul_right _ (by omega)
      have hexpand : (num / den + 2) * den = num / den * den + 2 * den := Nat.add_mul ..
      omega
    have hge : num / den ≤ m := by
      by_contra hlt
      have hmul : (m + 1) * den ≤ num / den * den := Nat.mul_le_mul_right _ (by omega)
      have hexpand : (m + 1) * den = m * den + den := Nat.succ_mul _ _
      omega
    omega
  unfold roundQuotient
  dsimp only
  rcases hm with rfl | rfl
  · split_ifs <;> omega
  · rw [hsucc] at hlow hhigh hodd
    split_ifs <;> omega

namespace Binary64

/-! ## The rounding exponent -/

/-- At the next exponent the numerator is halved or the denominator doubled. -/
theorem scale_succ (num den : Nat) (e : Int) :
    (num * 2 ^ (-(e + 1)).toNat = num * 2 ^ (-e).toNat ∧
        den * 2 ^ (e + 1).toNat = 2 * (den * 2 ^ e.toNat)) ∨
      (num * 2 ^ (-e).toNat = 2 * (num * 2 ^ (-(e + 1)).toNat) ∧
        den * 2 ^ (e + 1).toNat = den * 2 ^ e.toNat) := by
  by_cases he : 0 ≤ e
  · have hnum : (-(e + 1)).toNat = (-e).toNat := by omega
    have hden : (e + 1).toNat = e.toNat + 1 := by omega
    rw [hnum, hden, Nat.pow_succ]
    exact .inl ⟨rfl, by ring⟩
  · have hnum : (-e).toNat = (-(e + 1)).toNat + 1 := by omega
    have hden : (e + 1).toNat = e.toNat := by omega
    rw [hnum, hden, Nat.pow_succ]
    exact .inr ⟨by ring, rfl⟩

/-- Two exponents further down the quotient is four times as large. -/
theorem exists_scale (num den : Nat) (e : Int) : ∃ b, 0 < b ∧
    den * 2 ^ e.toNat = b * (den * 2 ^ (e - 2).toNat) ∧
      4 * (num * 2 ^ (-e).toNat) = b * (num * 2 ^ (-(e - 2)).toNat) := by
  have hfirst := scale_succ num den (e - 2)
  have hsecond := scale_succ num den (e - 1)
  have hnext : e - 2 + 1 = e - 1 := by omega
  rw [hnext] at hfirst
  rw [Int.sub_add_cancel] at hsecond
  rcases hfirst with ⟨hnum, hden⟩ | ⟨hnum, hden⟩ <;>
    rcases hsecond with ⟨hnum', hden'⟩ | ⟨hnum', hden'⟩
  · exact ⟨4, by omega⟩
  · exact ⟨2, by omega⟩
  · exact ⟨2, by omega⟩
  · exact ⟨1, by omega⟩

/-- A quotient with at most 53 digits before the point has at most 52 at a higher exponent. -/
theorem lt_of_exponent_lt {num den : Nat} {e f : Int} (hef : e < f)
    (h : num * 2 ^ (-e).toNat < 2 ^ (53 : Nat) * (den * 2 ^ e.toNat)) :
    num * 2 ^ (-f).toNat < 2 ^ (52 : Nat) * (den * 2 ^ f.toNat) := by
  -- on the distance of the exponents, by one halving or doubling at a time
  obtain ⟨n, rfl⟩ := Int.lt.dest hef
  clear hef
  induction n with
  | zero =>
    have hstep := scale_succ num den e
    simp only [Nat.zero_add, Nat.succ_eq_add_one, Nat.cast_one]
    omega
  | succ n ih =>
    have hstep := scale_succ num den (e + (n + 1 : Nat))
    have hcast : e + ((n + 1 + 1 : Nat) : Int) = e + (n + 1 : Nat) + 1 := by omega
    rw [Nat.succ_eq_add_one, hcast]
    rw [Nat.succ_eq_add_one] at ih
    omega

/-- The estimate by lengths is right or one too large. -/
theorem estimate_spec {num den : Nat} (hnum : num ≠ 0) (hden : den ≠ 0) {e : Int}
    (he : e = num.log2 - den.log2 - 52) :
    num * 2 ^ (-e).toNat < 2 ^ (53 : Nat) * (den * 2 ^ e.toNat) ∧
      2 ^ (51 : Nat) * (den * 2 ^ e.toNat) < num * 2 ^ (-e).toNat := by
  have hnum_lt : num < 2 ^ (num.log2 + 1) := Nat.lt_log2_self
  have hden_lt : den < 2 ^ (den.log2 + 1) := Nat.lt_log2_self
  have hnum_ge : 2 ^ num.log2 ≤ num := Nat.log2_self_le hnum
  have hden_ge : 2 ^ den.log2 ≤ den := Nat.log2_self_le hden
  have hexp : num.log2 + (-e).toNat = den.log2 + e.toNat + 52 := by omega
  constructor
  · calc num * 2 ^ (-e).toNat
        < 2 ^ (num.log2 + 1) * 2 ^ (-e).toNat :=
          Nat.mul_lt_mul_of_pos_right hnum_lt (Nat.two_pow_pos _)
      _ = 2 ^ (53 : Nat) * (2 ^ den.log2 * 2 ^ e.toNat) := by
          rw [← Nat.pow_add, ← Nat.pow_add, ← Nat.pow_add]
          congr 1
          omega
      _ ≤ 2 ^ (53 : Nat) * (den * 2 ^ e.toNat) :=
          Nat.mul_le_mul_left _ (Nat.mul_le_mul_right _ hden_ge)
  · calc 2 ^ (51 : Nat) * (den * 2 ^ e.toNat)
        < 2 ^ (51 : Nat) * (2 ^ (den.log2 + 1) * 2 ^ e.toNat) :=
          Nat.mul_lt_mul_of_pos_left
            (Nat.mul_lt_mul_of_pos_right hden_lt (Nat.two_pow_pos _)) (Nat.two_pow_pos _)
      _ = 2 ^ num.log2 * 2 ^ (-e).toNat := by
          rw [← Nat.pow_add, ← Nat.pow_add, ← Nat.pow_add]
          congr 1
          omega
      _ ≤ num * 2 ^ (-e).toNat := Nat.mul_le_mul_right _ hnum_ge

/-- At the rounding exponent a quotient has 53 digits before the point, or fewer if that is the
least exponent. -/
theorem roundingExponent_spec {num den : Nat} (hnum : num ≠ 0) (hden : den ≠ 0) {e : Int}
    (he : roundingExponent num den = e) :
    -1074 ≤ e ∧ num * 2 ^ (-e).toNat < 2 ^ (53 : Nat) * (den * 2 ^ e.toNat) ∧
      (e = -1074 ∨ 2 ^ (52 : Nat) * (den * 2 ^ e.toNat) ≤ num * 2 ^ (-e).toNat) := by
  -- the estimate, and the exponent one lower where it is too large
  have hexact : ∃ f : Int, e = max f (-1074) ∧
      num * 2 ^ (-f).toNat < 2 ^ (53 : Nat) * (den * 2 ^ f.toNat) ∧
      2 ^ (52 : Nat) * (den * 2 ^ f.toNat) ≤ num * 2 ^ (-f).toNat := by
    obtain ⟨hlt, hgt⟩ := estimate_spec hnum hden rfl
    rw [← he]
    unfold roundingExponent
    dsimp only
    refine ⟨_, rfl, ?_⟩
    split_ifs with hsmall
    · have hstep := scale_succ num den ((num.log2 : Int) - den.log2 - 52 - 1)
      rw [Int.sub_add_cancel] at hstep
      omega
    · omega
  obtain ⟨f, rfl, hlt, hge⟩ := hexact
  refine ⟨Int.le_max_right _ _, ?_⟩
  rcases Int.lt_or_le f (-1074) with hless | hmore
  · rw [Int.max_eq_right (Int.le_of_lt hless)]
    have hlower := lt_of_exponent_lt hless hlt
    exact ⟨by omega, .inl rfl⟩
  · rw [Int.max_eq_left hmore]
    exact ⟨hlt, .inr hge⟩

/-- No other exponent is like the rounding exponent. -/
theorem roundingExponent_eq {num den : Nat} (hnum : num ≠ 0) (hden : den ≠ 0) {e : Int}
    (hleast : -1074 ≤ e) (hlt : num * 2 ^ (-e).toNat < 2 ^ (53 : Nat) * (den * 2 ^ e.toNat))
    (hge : e = -1074 ∨ 2 ^ (52 : Nat) * (den * 2 ^ e.toNat) ≤ num * 2 ^ (-e).toNat) :
    roundingExponent num den = e := by
  obtain ⟨hleast', hlt', hge'⟩ := roundingExponent_spec hnum hden rfl
  rcases Int.lt_trichotomy (roundingExponent num den) e with hless | heq | hmore
  · have hfew := lt_of_exponent_lt hless hlt'
    omega
  · exact heq
  · have hfew := lt_of_exponent_lt hmore hlt
    omega

/-! ## The interval of a number -/

/-- The quotient lies in the interval of all that rounds to the magnitude of `x`, told in quarters
of the last binary digit of `x`. -/
structure Encloses (x : Binary64) (num den : Nat) : Prop where
  low : (4 * x.mant - x.lowerGap) * (den * 2 ^ x.exp.toNat) ≤ 4 * (num * 2 ^ (-x.exp).toNat)
  high : 4 * (num * 2 ^ (-x.exp).toNat) ≤ (4 * x.mant + 2) * (den * 2 ^ x.exp.toNat)
  /-- The ends belong to the interval of an even significand only. -/
  inside : x.mant % 2 = 1 →
    (4 * x.mant - x.lowerGap) * (den * 2 ^ x.exp.toNat) < 4 * (num * 2 ^ (-x.exp).toNat) ∧
      4 * (num * 2 ^ (-x.exp).toNat) < (4 * x.mant + 2) * (den * 2 ^ x.exp.toNat)

theorem lowerGap_cases (x : Binary64) :
    x.lowerGap = 1 ∧ x.mant = 2 ^ (52 : Nat) ∧ -1074 < x.exp ∨
      x.lowerGap = 2 ∧ (x.mant = 2 ^ (52 : Nat) → x.exp = -1074) := by
  obtain ⟨-, hleast, -, -⟩ := x.canonical
  unfold lowerGap
  split_ifs with h
  · exact .inl ⟨rfl, h⟩
  · refine .inr ⟨rfl, fun hmant => ?_⟩
    by_contra hexp
    exact h ⟨hmant, by omega⟩

variable {x : Binary64} {num den : Nat}

/-- A quotient in the interval has at most 53 digits before the point at the number's exponent. -/
theorem Encloses.lt (h : x.Encloses num den) (hden : den ≠ 0) :
    num * 2 ^ (-x.exp).toNat < 2 ^ (53 : Nat) * (den * 2 ^ x.exp.toNat) := by
  have hmant : x.mant < 2 ^ (53 : Nat) := x.canonical.1
  have hpos : 0 < den * 2 ^ x.exp.toNat :=
    Nat.mul_pos (Nat.pos_of_ne_zero hden) (Nat.two_pow_pos _)
  have hmul : (4 * x.mant + 2) * (den * 2 ^ x.exp.toNat) ≤
      (2 ^ (55 : Nat) - 2) * (den * 2 ^ x.exp.toNat) := Nat.mul_le_mul_right _ (by omega)
  have hhigh := h.high
  omega

theorem Encloses.pos (h : x.Encloses num den) (hden : den ≠ 0) (hmant : x.mant ≠ 0) :
    den * 2 ^ x.exp.toNat < 2 * (num * 2 ^ (-x.exp).toNat) := by
  have hpos : 0 < den * 2 ^ x.exp.toNat :=
    Nat.mul_pos (Nat.pos_of_ne_zero hden) (Nat.two_pow_pos _)
  have hgap := x.lowerGap_cases
  by_cases hone : x.mant = 1
  · have hinside := (h.inside (by omega)).1
    have hlow : 4 * x.mant - x.lowerGap = 2 := by omega
    rw [hlow] at hinside
    omega
  · have hlow := h.low
    have hmul : 3 * (den * 2 ^ x.exp.toNat) ≤
        (4 * x.mant - x.lowerGap) * (den * 2 ^ x.exp.toNat) := Nat.mul_le_mul_right _ (by omega)
    omega

/-- Whether a quotient is in the interval does not depend on how it is written. -/
theorem Encloses.congr {num' den' : Nat} (h : x.Encloses num den) (hden : den ≠ 0)
    (hden' : den' ≠ 0) (heq : num * den' = num' * den) : x.Encloses num' den' := by
  have hpos : 0 < den := Nat.pos_of_ne_zero hden
  have hpos' : 0 < den' := Nat.pos_of_ne_zero hden'
  -- both quotients are brought to the product of the denominators
  have hend : ∀ c, c * (den' * 2 ^ x.exp.toNat) * den = c * (den * 2 ^ x.exp.toNat) * den' := by
    intro c
    ring
  have hquotient : 4 * (num' * 2 ^ (-x.exp).toNat) * den = 4 * (num * 2 ^ (-x.exp).toNat) * den' := by
    calc 4 * (num' * 2 ^ (-x.exp).toNat) * den
        = 4 * 2 ^ (-x.exp).toNat * (num' * den) := by ring
      _ = 4 * 2 ^ (-x.exp).toNat * (num * den') := by rw [heq]
      _ = 4 * (num * 2 ^ (-x.exp).toNat) * den' := by ring
  refine ⟨?_, ?_, fun hodd => ⟨?_, ?_⟩⟩
  · rw [← Nat.mul_le_mul_right_iff hpos, hend, hquotient]
    exact Nat.mul_le_mul_right _ h.low
  · rw [← Nat.mul_le_mul_right_iff hpos, hend, hquotient]
    exact Nat.mul_le_mul_right _ h.high
  · rw [← Nat.mul_lt_mul_right hpos, hend, hquotient]
    exact Nat.mul_lt_mul_of_pos_right (h.inside hodd).1 hpos'
  · rw [← Nat.mul_lt_mul_right hpos, hend, hquotient]
    exact Nat.mul_lt_mul_of_pos_right (h.inside hodd).2 hpos'

/-- A quotient in the interval and not below the binade rounds to the number at its exponent. -/
theorem Encloses.roundQuotient_eq (h : x.Encloses num den) (hden : den ≠ 0)
    (hge : x.exp = -1074 ∨
      2 ^ (52 : Nat) * (den * 2 ^ x.exp.toNat) ≤ num * 2 ^ (-x.exp).toNat) :
    roundQuotient (num * 2 ^ (-x.exp).toNat) (den * 2 ^ x.exp.toNat) = x.mant := by
  have hpos : 0 < den * 2 ^ x.exp.toNat :=
    Nat.mul_pos (Nat.pos_of_ne_zero hden) (Nat.two_pow_pos _)
  have hhigh := h.high
  have hlow := h.low
  have hinside := h.inside
  have hgap := x.lowerGap_cases
  obtain ⟨n, hn⟩ : ∃ n, n = num * 2 ^ (-x.exp).toNat := ⟨_, rfl⟩
  obtain ⟨d, hd⟩ : ∃ d, d = den * 2 ^ x.exp.toNat := ⟨_, rfl⟩
  rw [← hn, ← hd] at hhigh hlow hinside hge ⊢
  rw [← hd] at hpos
  have hmul : (4 * x.mant + 2) * d = 4 * (x.mant * d) + 2 * d := by ring
  rw [hmul] at hhigh hinside
  by_cases hzero : x.mant = 0
  · rw [hzero] at hhigh ⊢
    exact ItemTable.roundQuotient_eq hpos (by omega) (by omega) (by omega)
  · rcases hgap with ⟨hgap, hmant, hexp⟩ | ⟨hgap, -⟩
    · -- the number is a power of two, and the quotient not below it
      rw [hmant] at hhigh ⊢
      exact ItemTable.roundQuotient_eq hpos (by omega) (by omega) (by omega)
    · have hsub : (4 * x.mant - x.lowerGap) * d + 2 * d = 4 * (x.mant * d) := by
        rw [hgap, ← Nat.add_mul, Nat.sub_add_cancel (by omega), Nat.mul_assoc]
      exact ItemTable.roundQuotient_eq hpos (by omega) (by omega) (by omega)

/-- What is in the interval of a number rounds to it. -/
theorem ofRatio_of_encloses (hnum : num ≠ 0) (hden : den ≠ 0) (h : x.Encloses num den) :
    ofRatio x.neg num den = some x := by
  have hlt := h.lt hden
  obtain ⟨hmant, hleast, hgreatest, hnormal⟩ := x.canonical
  unfold ofRatio
  rw [if_neg hnum]
  dsimp only
  by_cases hge : x.exp = -1074 ∨
      2 ^ (52 : Nat) * (den * 2 ^ x.exp.toNat) ≤ num * 2 ^ (-x.exp).toNat
  · rw [roundingExponent_eq hnum hden hleast hlt hge, h.roundQuotient_eq hden hge,
      if_neg (Nat.ne_of_lt hmant), if_neg (Nat.ne_of_lt hmant), dif_pos x.canonical]
  · -- only a power of two has numbers below its binade in its interval
    obtain ⟨hexp, hsmall⟩ := not_or.1 hge
    rw [Nat.not_le] at hsmall
    have hpos : 0 < den * 2 ^ x.exp.toNat :=
      Nat.mul_pos (Nat.pos_of_ne_zero hden) (Nat.two_pow_pos _)
    have hlow := h.low
    have hgap : x.lowerGap = 1 ∧ x.mant = 2 ^ (52 : Nat) := by
      rcases x.lowerGap_cases with ⟨hgap, hmant, -⟩ | ⟨hgap, hmant⟩
      · exact ⟨hgap, hmant⟩
      · exfalso
        have hmul : 2 ^ (54 : Nat) * (den * 2 ^ x.exp.toNat) ≤
            (4 * x.mant - x.lowerGap) * (den * 2 ^ x.exp.toNat) :=
          Nat.mul_le_mul_right _ (by omega)
        omega
    rw [hgap.1, hgap.2] at hlow
    have hstep := scale_succ num den (x.exp - 1)
    rw [Int.sub_add_cancel] at hstep
    have hpos' : 0 < den * 2 ^ (x.exp - 1).toNat :=
      Nat.mul_pos (Nat.pos_of_ne_zero hden) (Nat.two_pow_pos _)
    have hexponent : roundingExponent num den = x.exp - 1 :=
      roundingExponent_eq hnum hden (by omega) (by omega) (.inr (by omega))
    have hround : roundQuotient (num * 2 ^ (-(x.exp - 1)).toNat)
        (den * 2 ^ (x.exp - 1).toNat) = 2 ^ (53 : Nat) :=
      ItemTable.roundQuotient_eq hpos' (by omega) (by omega) (by omega)
    rw [hexponent, hround, if_pos rfl, if_pos rfl, Int.sub_add_cancel]
    have hx : (⟨x.neg, x.mant, x.exp, x.canonical⟩ : Binary64) = x := rfl
    simp only [← hgap.2, dif_pos x.canonical, hx]

/-! ## Decimals -/

/-- A decimal whose point is behind more than `k` digits is at least `10 ^ k`. -/
theorem le_decimal {coef : Nat} (k : Nat) (exp : Int) (hcoef : coef ≠ 0)
    (h : k < exp + (Nat.toDigits 10 coef).length) :
    10 ^ k * 10 ^ (-exp).toNat ≤ coef * 10 ^ exp.toNat := by
  have hlength : 0 < (Nat.toDigits 10 coef).length := Nat.length_toDigits_pos
  have hlead : 10 ^ ((Nat.toDigits 10 coef).length - 1) ≤ coef := by
    by_cases hone : (Nat.toDigits 10 coef).length = 1
    · rw [hone]
      omega
    · by_contra hlt
      have hle := (Nat.length_toDigits_le_iff (n := coef) (b := 10) (by decide)
        (Nat.sub_pos_of_lt (by omega : 1 < (Nat.toDigits 10 coef).length))).2 (by omega)
      omega
  calc 10 ^ k * 10 ^ (-exp).toNat = 10 ^ (k + (-exp).toNat) := (Nat.pow_add ..).symm
    _ ≤ 10 ^ ((Nat.toDigits 10 coef).length - 1 + exp.toNat) :=
        Nat.pow_le_pow_right (by decide) (by omega)
    _ = 10 ^ ((Nat.toDigits 10 coef).length - 1) * 10 ^ exp.toNat := Nat.pow_add ..
    _ ≤ coef * 10 ^ exp.toNat := Nat.mul_le_mul_right _ hlead

/-- A decimal with `k` zeros right behind its point is below `10 ^ -k`. -/
theorem decimal_lt (coef k : Nat) (exp : Int)
    (h : exp + (Nat.toDigits 10 coef).length ≤ -k) :
    10 ^ k * (coef * 10 ^ exp.toNat) < 10 ^ (-exp).toNat := by
  have hlength : 0 < (Nat.toDigits 10 coef).length := Nat.length_toDigits_pos
  have hlt : coef < 10 ^ (Nat.toDigits 10 coef).length :=
    (Nat.length_toDigits_le_iff (by decide) hlength).1 (Nat.le_refl _)
  have hexp : exp.toNat = 0 := by omega
  rw [hexp, Nat.pow_zero, Nat.mul_one]
  calc 10 ^ k * coef < 10 ^ k * 10 ^ (Nat.toDigits 10 coef).length :=
        Nat.mul_lt_mul_of_pos_left hlt (Nat.pow_pos (by decide))
    _ = 10 ^ (k + (Nat.toDigits 10 coef).length) := (Nat.pow_add ..).symm
    _ ≤ 10 ^ (-exp).toNat := Nat.pow_le_pow_right (by decide) (by omega)

theorem two_pow_toNat_le {e : Int} {k : Nat} (h : e ≤ k) : 2 ^ e.toNat ≤ 2 ^ k :=
  Nat.pow_le_pow_right (by decide) (Int.toNat_le.2 h)

/-- A decimal in the interval of a number has its point where decimals are not too large. -/
theorem Encloses.point_le {coef : Nat} {exp : Int} (hcoef : coef ≠ 0)
    (h : x.Encloses (coef * 10 ^ exp.toNat) (10 ^ (-exp).toNat)) :
    exp + (Nat.toDigits 10 coef).length ≤ 309 := by
  by_contra hlarge
  have hvalue := le_decimal 309 exp hcoef (by omega)
  have hlt := h.lt (ten_pow_ne_zero _)
  obtain ⟨-, -, hgreatest, -⟩ := x.canonical
  -- the greatest number is below a one with 309 zeros
  have hbound : 2 ^ (53 : Nat) * 2 ^ (971 : Nat) ≤ 10 ^ (309 : Nat) := by decide +kernel
  have hpow := two_pow_toNat_le (k := 971) hgreatest
  generalize 10 ^ (309 : Nat) = bound at hvalue hbound
  refine absurd (Nat.lt_of_le_of_lt hvalue ?_) (Nat.lt_irrefl _)
  calc coef * 10 ^ exp.toNat
      ≤ coef * 10 ^ exp.toNat * 2 ^ (-x.exp).toNat :=
        Nat.le_mul_of_pos_right _ (Nat.two_pow_pos _)
    _ < 2 ^ (53 : Nat) * (10 ^ (-exp).toNat * 2 ^ x.exp.toNat) := hlt
    _ = 2 ^ (53 : Nat) * 2 ^ x.exp.toNat * 10 ^ (-exp).toNat := by ring
    _ ≤ bound * 10 ^ (-exp).toNat :=
        Nat.mul_le_mul_right _ (Nat.le_trans (Nat.mul_le_mul_left _ hpow) hbound)

/-- A decimal in the interval of a number other than zero has its point where decimals are not too
small. -/
theorem Encloses.le_point {coef : Nat} {exp : Int} (hmant : x.mant ≠ 0)
    (h : x.Encloses (coef * 10 ^ exp.toNat) (10 ^ (-exp).toNat)) :
    -324 ≤ exp + (Nat.toDigits 10 coef).length := by
  by_contra hsmall
  have hvalue := decimal_lt coef 325 exp (by omega)
  have hpos := h.pos (ten_pow_ne_zero _) hmant
  obtain ⟨-, hleast, -, -⟩ := x.canonical
  -- half of the least positive number is above a one at the 325th place
  have hbound : 2 * 2 ^ (1074 : Nat) ≤ 10 ^ (325 : Nat) := by decide +kernel
  have hpow := two_pow_toNat_le (k := 1074) (e := -x.exp) (by omega)
  generalize 10 ^ (325 : Nat) = bound at hvalue hbound
  refine absurd (Nat.lt_trans hvalue ?_) (Nat.lt_irrefl _)
  calc 10 ^ (-exp).toNat
      ≤ 10 ^ (-exp).toNat * 2 ^ x.exp.toNat := Nat.le_mul_of_pos_right _ (Nat.two_pow_pos _)
    _ < 2 * (coef * 10 ^ exp.toNat * 2 ^ (-x.exp).toNat) := hpos
    _ = 2 * 2 ^ (-x.exp).toNat * (coef * 10 ^ exp.toNat) := by ring
    _ ≤ bound * (coef * 10 ^ exp.toNat) :=
        Nat.mul_le_mul_right _ (Nat.le_trans (Nat.mul_le_mul_left _ hpow) hbound)

/-- A decimal in the interval of a number other than zero rounds to it. -/
theorem ofDecimal_of_encloses {coef : Nat} {exp : Int} (hmant : x.mant ≠ 0)
    (h : x.Encloses (coef * 10 ^ exp.toNat) (10 ^ (-exp).toNat)) :
    ofDecimal x.neg coef exp = some x := by
  have hden := ten_pow_ne_zero (-exp).toNat
  have hnum : coef * 10 ^ exp.toNat ≠ 0 := by
    intro hzero
    have hpos := h.pos hden hmant
    rw [hzero, Nat.zero_mul] at hpos
    exact Nat.not_lt_zero _ hpos
  have hcoef : coef ≠ 0 := left_ne_zero_of_mul hnum
  have hlarge := h.point_le hcoef
  have hsmall := h.le_point hmant
  unfold ofDecimal
  rw [if_neg hcoef]
  dsimp only
  rw [if_neg (by omega), if_neg (by omega)]
  exact ofRatio_of_encloses hnum hden h

end Binary64

end ItemTable
