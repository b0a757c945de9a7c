set_option autoImplicit false

/-! # Finite binary64 numbers

A `Binary64` is `± mant · 2 ^ exp` in the one canonical way, so equal numbers of one sign are equal
terms and the two zeros differ. `ofRatio` rounds a quotient of naturals to the nearest such number,
a tie to the even significand. -/

namespace ItemTable

-- Powers are those of core, whatever else is imported.
attribute [local instance (high)] instPowNat

/-- What makes `mant · 2 ^ exp` the canonical form of a finite binary64 magnitude: 53 significant
binary digits, or fewer at the least exponent. -/
abbrev Binary64.Canonical (mant : Nat) (exp : Int) : Prop :=
  mant < 2 ^ (53 : Nat) ∧ -1074 ≤ exp ∧ exp ≤ 971 ∧ (2 ^ (52 : Nat) ≤ mant ∨ exp = -1074)

/-- A finite binary64 number, `mant · 2 ^ exp` or its negative. -/
structure Binary64 where
  /-- The sign, which zero has too. -/
  neg : Bool
  /-- The significand. -/
  mant : Nat
  /-- The binary exponent of the significand's last digit. -/
  exp : Int
  /-- No number has two forms. -/
  canonical : Binary64.Canonical mant exp
  deriving DecidableEq

/-- The quotient of `num` by `den` to the nearest natural, a tie to the even one. -/
def roundQuotient (num den : Nat) : Nat :=
  let q := num / den
  let r := num % den
  if 2 * r < den then q
  else if den < 2 * r then q + 1
  else if q % 2 = 0 then q else q + 1

namespace Binary64

/-- Zero of either sign. -/
def zero (neg : Bool) : Binary64 := ⟨neg, 0, -1074, by decide⟩

instance : Inhabited Binary64 := ⟨zero false⟩

/-- The exponent at which the positive quotient `num / den` has 53 digits before the binary point,
or the least exponent if that one is greater. The estimate by lengths is right or one too large. -/
def roundingExponent (num den : Nat) : Int :=
  let e : Int := num.log2 - den.log2 - 52
  let e := if num * 2 ^ (-e).toNat < 2 ^ (52 : Nat) * (den * 2 ^ e.toNat) then e - 1 else e
  max e (-1074)

/-- The binary64 number nearest to `num / den`; `none` if it is too large for any. -/
def ofRatio (neg : Bool) (num den : Nat) : Option Binary64 :=
  if num = 0 then some (zero neg)
  else
    let e := roundingExponent num den
    let m := roundQuotient (num * 2 ^ (-e).toNat) (den * 2 ^ e.toNat)
    let m' := if m = 2 ^ (53 : Nat) then 2 ^ (52 : Nat) else m
    let e' := if m = 2 ^ (53 : Nat) then e + 1 else e
    if h : Canonical m' e' then some ⟨neg, m', e', h⟩ else none

/-- The number nearest to `± coef · 10 ^ exp`; `none` if it is too large. A magnitude of 10 ^ 309 is
too large and one below 10 ^ -324 rounds to zero, so huge exponents cost nothing. -/
def ofDecimal (neg : Bool) (coef : Nat) (exp : Int) : Option Binary64 :=
  if coef = 0 then some (zero neg)
  else
    let point : Int := exp + (Nat.toDigits 10 coef).length
    if 309 < point then none
    else if point < -324 then some (zero neg)
    else ofRatio neg (coef * 10 ^ exp.toNat) (10 ^ (-exp).toNat)

/-- The number nearest to an integer; `none` beyond the greatest finite number. -/
def ofInt (i : Int) : Option Binary64 := ofRatio (decide (i < 0)) i.natAbs 1

/-- The significand with its sign. -/
def coef (x : Binary64) : Int := if x.neg then -(x.mant : Int) else x.mant

/-- Whether the number has no fractional part. -/
def isIntegral (x : Binary64) : Bool :=
  decide (0 ≤ x.exp) || x.mant % 2 ^ (-x.exp).toNat == 0

/-- The number without its fractional part. -/
def truncate (x : Binary64) : Int :=
  let magnitude : Nat := x.mant * 2 ^ x.exp.toNat / 2 ^ (-x.exp).toNat
  if x.neg then -(magnitude : Int) else magnitude

end Binary64

end ItemTable
