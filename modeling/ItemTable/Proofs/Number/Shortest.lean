import ItemTable.Proofs.Number.Rounding

set_option autoImplicit false

/-! # The shortest decimal is found and rounds back

A decimal that is tried for a number is one in the number's interval (`Binary64.roundsFrom_iff`). On
a grid no coarser than half of the last binary digit one is found (`Binary64.exists_onGrid?`), and
twenty-one grids reach that far down for every number. So each number has a shortest decimal, which
lies in its interval (`Binary64.encloses_shortest`) and so rounds back to it. -/

namespace ItemTable

-- Powers are those of core, whatever else is imported.
attribute [local instance (high)] instPowNat

/-- A power is below another one if it is so by the rates of two known powers. -/
theorem pow_le_pow_of_rates {a b m n j k : Nat} (hm : m ≠ 0) (h : a ^ m ≤ b ^ n)
    (hb : 0 < b) (hrates : n * j ≤ m * k) : a ^ j ≤ b ^ k := by
  refine (Nat.pow_le_pow_iff_left hm).1 ?_
  calc (a ^ j) ^ m = (a ^ m) ^ j := by rw [← Nat.pow_mul, ← Nat.pow_mul, Nat.mul_comm]
    _ ≤ (b ^ n) ^ j := Nat.pow_le_pow_left h j
    _ = b ^ (n * j) := (Nat.pow_mul ..).symm
    _ ≤ b ^ (m * k) := Nat.pow_le_pow_right hb hrates
    _ = (b ^ k) ^ m := by rw [← Nat.pow_mul, Nat.mul_comm]

namespace Binary64

variable {x : Binary64} {tie : Tie}

theorem roundsFrom_iff {d : Nat} {k : Int} :
    x.roundsFrom d k = true ↔ x.Encloses (d * 10 ^ k.toNat) (10 ^ (-k).toNat) := by
  -- the test is done in quarters of the last digit, the interval told in whole ones
  obtain ⟨b, hb, hden, hnum⟩ := exists_scale (d * 10 ^ k.toNat) (10 ^ (-k).toNat) x.exp
  have hlow : ∀ c, c * (10 ^ (-k).toNat * 2 ^ x.exp.toNat) ≤
        4 * (d * 10 ^ k.toNat * 2 ^ (-x.exp).toNat) ↔
      c * (2 ^ (x.exp - 2).toNat * 10 ^ (-k).toNat) ≤
        d * 10 ^ k.toNat * 2 ^ (-(x.exp - 2)).toNat := by
    intro c
    rw [hden, hnum, Nat.mul_left_comm, Nat.mul_le_mul_left_iff hb, Nat.mul_comm (10 ^ _)]
  have hhigh : ∀ c, 4 * (d * 10 ^ k.toNat * 2 ^ (-x.exp).toNat) ≤
        c * (10 ^ (-k).toNat * 2 ^ x.exp.toNat) ↔
      d * 10 ^ k.toNat * 2 ^ (-(x.exp - 2)).toNat ≤
        c * (2 ^ (x.exp - 2).toNat * 10 ^ (-k).toNat) := by
    intro c
    rw [hden, hnum, Nat.mul_left_comm c, Nat.mul_le_mul_left_iff hb, Nat.mul_comm (10 ^ _)]
  unfold roundsFrom
  dsimp only
  split_ifs with heven
  · rw [decide_eq_true_eq, ← hlow, ← hhigh]
    constructor
    · intro h
      exact ⟨h.1, h.2, fun hodd => absurd hodd (by omega)⟩
    · intro h
      exact ⟨h.low, h.high⟩
  · rw [decide_eq_true_eq, ← Nat.not_le, ← Nat.not_le, ← hlow, ← hhigh, Nat.not_le, Nat.not_le]
    constructor
    · intro h
      exact ⟨Nat.le_of_lt h.1, Nat.le_of_lt h.2, fun _ => h⟩
    · intro h
      exact h.inside (by omega)

/-! ## Grids -/

/-- What is found on a grid rounds to the number. -/
theorem roundsFrom_of_onGrid? {k : Int} {d : Decimal} (h : x.onGrid? tie k = some d) :
    x.roundsFrom d.coef d.exp = true := by
  unfold onGrid? at h
  dsimp only at h
  split at h
  · cases h
  · next hfirst _ =>
    cases h
    exact (Bool.and_eq_true_iff.1 hfirst).2
  · next _ hsecond =>
    cases h
    exact hsecond
  · next hfirst hsecond =>
    have hlower := (Bool.and_eq_true_iff.1 hfirst).2
    split at h
    · cases h
      exact hlower
    · cases h
      exact hsecond
    · split_ifs at h
      · cases h
        exact hsecond
      · cases h
        exact hlower

/-- Where one of a number's neighbours rounds to it, something is found. -/
theorem exists_onGrid?_of_neighbour {k : Int}
    (h : (0 < (x.neighbours k).1 ∧ x.roundsFrom (x.neighbours k).1 k = true) ∨
      x.roundsFrom ((x.neighbours k).1 + 1) k = true) : ∃ d, x.onGrid? tie k = some d := by
  unfold onGrid?
  dsimp only
  split
  · next hfirst hsecond =>
    rcases h with ⟨hpos, hrounds⟩ | hrounds
    · simp [hpos, hrounds] at hfirst
    · rw [hsecond] at hrounds
      cases hrounds
  · exact ⟨_, rfl⟩
  · exact ⟨_, rfl⟩
  · split
    · exact ⟨_, rfl⟩
    · exact ⟨_, rfl⟩
    · split_ifs
      · exact ⟨_, rfl⟩
      · exact ⟨_, rfl⟩

/-- On a grid no coarser than half of the last binary digit a number is found. -/
theorem exists_onGrid? {k : Int} (hmant : x.mant ≠ 0)
    (hfine : 2 * (2 ^ (-x.exp).toNat * 10 ^ k.toNat) ≤ 2 ^ x.exp.toNat * 10 ^ (-k).toNat) :
    ∃ d, x.onGrid? tie k = some d := by
  apply exists_onGrid?_of_neighbour
  obtain ⟨unit, hunit⟩ : ∃ unit, unit = 2 ^ x.exp.toNat * 10 ^ (-k).toNat := ⟨_, rfl⟩
  obtain ⟨den, hden⟩ : ∃ den, den = 2 ^ (-x.exp).toNat * 10 ^ k.toNat := ⟨_, rfl⟩
  have hlower : (x.neighbours k).1 = x.mant * unit / den := by
    rw [hunit, hden, neighbours, Nat.mul_assoc]
  -- both neighbours are compared with the number in the same units
  have hrounds : ∀ d, (4 * x.mant - x.lowerGap) * unit < 4 * (d * den) →
      4 * (d * den) < (4 * x.mant + 2) * unit → x.roundsFrom d k = true := by
    intro d hlow hhigh
    have hd : d * 10 ^ k.toNat * 2 ^ (-x.exp).toNat = d * den := by
      rw [hden, Nat.mul_assoc, Nat.mul_comm (10 ^ _)]
    have hu : 10 ^ (-k).toNat * 2 ^ x.exp.toNat = unit := by rw [hunit, Nat.mul_comm]
    refine roundsFrom_iff.2 ⟨?_, ?_, fun _ => ⟨?_, ?_⟩⟩ <;> rw [hd, hu] <;> omega
  have hdenpos : 0 < den := by
    rw [hden]
    exact Nat.mul_pos (Nat.two_pow_pos _) (Nat.pow_pos (by decide))
  rw [← hunit, ← hden] at hfine
  have hdiv := Nat.div_add_mod' (x.mant * unit) den
  have hmod := Nat.mod_lt (x.mant * unit) hdenpos
  have hlow : (4 * x.mant - x.lowerGap) * unit < 4 * (x.mant * unit) := by
    have hgap := x.lowerGap_cases
    rw [← Nat.mul_assoc]
    exact Nat.mul_lt_mul_of_pos_right (by omega) (by omega)
  have hhigh : (4 * x.mant + 2) * unit = 4 * (x.mant * unit) + 2 * unit := by
    rw [Nat.add_mul, Nat.mul_assoc]
  rw [hlower]
  -- the number is on the grid, or the neighbour above is less than half a digit away
  by_cases hexact : x.mant * unit % den = 0
  · refine .inl ⟨?_, hrounds _ (by omega) (by omega)⟩
    have hle : den ≤ x.mant * unit := by
      calc den ≤ unit := by omega
        _ ≤ x.mant * unit := Nat.le_mul_of_pos_left _ (Nat.pos_of_ne_zero hmant)
    exact Nat.div_pos hle hdenpos
  · have hsucc : (x.mant * unit / den + 1) * den = x.mant * unit / den * den + den :=
      Nat.succ_mul _ _
    exact .inr (hrounds _ (by omega) (by omega))

/-- Where one of the grids that are tried has a hit, a decimal rounding to the number is found. -/
theorem firstGrid?_spec {fuel i : Nat} {k : Int} (hi : i < fuel)
    (hhit : ∃ d, x.onGrid? tie (k - i) = some d) :
    ∃ d, firstGrid? tie x fuel k = some d ∧ x.roundsFrom d.coef d.exp = true := by
  induction fuel generalizing k i with
  | zero => exact absurd hi (Nat.not_lt_zero i)
  | succ fuel ih =>
    rw [firstGrid?]
    cases hfirst : x.onGrid? tie k with
    | some d => exact ⟨d, rfl, roundsFrom_of_onGrid? hfirst⟩
    | none =>
      cases i with
      | zero =>
        obtain ⟨d, hd⟩ := hhit
        rw [Nat.cast_zero, Int.sub_zero, hfirst] at hd
        cases hd
      | succ i =>
        have hnext : k - (i + 1 : Nat) = k - 1 - i := by omega
        rw [hnext] at hhit
        exact ih (Nat.lt_of_succ_lt_succ hi) hhit

/-! ## Enough grids -/

/-- The last grid that is tried is fine enough for every number. -/
theorem lastGrid_fine {k : Int} (hk : k = x.decimalExponent - 20) :
    2 * (2 ^ (-x.exp).toNat * 10 ^ k.toNat) ≤ 2 ^ x.exp.toNat * 10 ^ (-k).toNat := by
  obtain ⟨hmant, hleast, hgreatest, -⟩ := x.canonical
  have hlog : x.mant.log2 ≤ 52 := by
    by_cases hzero : x.mant = 0
    · simp [hzero]
    · have hlt := (Nat.log2_lt hzero).2 hmant
      omega
  have hrate : 4096 * k ≤ 1233 * x.exp - 12475 := by
    rw [hk, decimalExponent]
    omega
  have htwo : ∀ n : Nat, 2 * 2 ^ n = 2 ^ (n + 1) := fun n => by rw [Nat.pow_succ, Nat.mul_comm]
  rcases Int.lt_or_le k 0 with hneg | hpos
  · have hk : k.toNat = 0 := by omega
    rw [hk, Nat.pow_zero, Nat.mul_one, htwo]
    -- by `2 ^ 93 ≤ 10 ^ 28`
    have hpow : 2 ^ ((-x.exp).toNat + 1) ≤ 10 ^ (-k).toNat :=
      pow_le_pow_of_rates (m := 93) (n := 28) (by decide) (by decide) (by decide) (by omega)
    exact Nat.le_trans hpow (Nat.le_mul_of_pos_left _ (Nat.two_pow_pos _))
  · have hk : (-k).toNat = 0 := by omega
    have hexp : (-x.exp).toNat = 0 := by omega
    obtain ⟨n, hn⟩ : ∃ n, x.exp.toNat = n + 1 := ⟨x.exp.toNat - 1, by omega⟩
    rw [hk, hexp, hn, Nat.pow_zero, Nat.one_mul, Nat.mul_one, ← htwo]
    exact Nat.mul_le_mul_left 2
      (pow_le_pow_of_rates (m := 1233) (n := 4096) (by decide) (by decide +kernel) (by decide)
        (by omega))

/-- The shortest decimal of a number other than zero is one that rounds to it. -/
theorem roundsFrom_shortest (hmant : x.mant ≠ 0) :
    x.roundsFrom (x.shortest tie).coef (x.shortest tie).exp = true := by
  have hhit : ∃ d, x.onGrid? tie (x.decimalExponent - (20 : Nat)) = some d :=
    exists_onGrid? hmant (lastGrid_fine rfl)
  obtain ⟨d, hfirst, hrounds⟩ := firstGrid?_spec (by decide : 20 < 21) hhit
  rw [shortest, if_neg hmant, hfirst]
  exact hrounds

/-- The interval of a number other than zero has the shortest decimal in it. -/
theorem encloses_shortest (tie : Tie) (hmant : x.mant ≠ 0) :
    x.Encloses ((x.shortest tie).coef * 10 ^ (x.shortest tie).exp.toNat)
      (10 ^ (-(x.shortest tie).exp).toNat) :=
  roundsFrom_iff.1 (roundsFrom_shortest hmant)

end Binary64

end ItemTable
