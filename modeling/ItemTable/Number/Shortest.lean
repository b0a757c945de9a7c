import ItemTable.Number.Binary64

set_option autoImplicit false

/-! # Shortest decimals

The reals that round to a positive binary64 number form an interval around it, closed iff the
significand is even. `Binary64.shortest` is the decimal with the fewest digits in that interval and,
among those, the one nearest to the number. It tries grids of multiples of `10 ^ k` from the coarse
to the fine: if any multiple lies in the interval, so does one of the number's two neighbours. -/

namespace ItemTable

-- Powers are those of core, whatever else is imported.
attribute [local instance (high)] instPowNat

/-- The number `coef · 10 ^ exp`. -/
structure Decimal where
  coef : Nat
  exp : Int
  deriving DecidableEq, Repr

/-- Which of two equally near decimals is taken. -/
inductive Tie
  /-- The greater one. -/
  | up
  /-- The one whose last digit is even. -/
  | toEven
  deriving DecidableEq, Repr

namespace Binary64

/-- A quarter of the last binary digit is the unit in which the interval's ends are whole. The ends
are two units off, but below a power of two the numbers lie twice as close. -/
def lowerGap (x : Binary64) : Nat := if x.mant = 2 ^ (52 : Nat) ∧ -1074 < x.exp then 1 else 2

/-- Whether `d · 10 ^ k` rounds to `x`; the sign is left aside. -/
def roundsFrom (x : Binary64) (d : Nat) (k : Int) : Bool :=
  let e := x.exp - 2
  -- both sides as whole multiples of the finer of the two scales
  let decimal := d * 10 ^ k.toNat * 2 ^ (-e).toNat
  let unit := 2 ^ e.toNat * 10 ^ (-k).toNat
  let low := (4 * x.mant - x.lowerGap) * unit
  let high := (4 * x.mant + 2) * unit
  if x.mant % 2 = 0 then decide (low ≤ decimal ∧ decimal ≤ high)
  else decide (low < decimal ∧ decimal < high)

/-- The decimals `d · 10 ^ k` and `(d + 1) · 10 ^ k` around `x`, and whether the lower is nearer,
`.lt`, the upper, `.gt`, or neither. -/
def neighbours (x : Binary64) (k : Int) : Nat × Ordering :=
  let num := x.mant * 2 ^ x.exp.toNat * 10 ^ (-k).toNat
  let den := 2 ^ (-x.exp).toNat * 10 ^ k.toNat
  (num / den, compare (2 * (num % den)) den)

/-- The decimal on the grid of multiples of `10 ^ k` that rounds to `x` and is nearest to it. -/
def onGrid? (tie : Tie) (x : Binary64) (k : Int) : Option Decimal :=
  let (d, side) := x.neighbours k
  match decide (0 < d) && x.roundsFrom d k, x.roundsFrom (d + 1) k with
  | false, false => none
  | true, false => some ⟨d, k⟩
  | false, true => some ⟨d + 1, k⟩
  | true, true =>
    match side with
    | .lt => some ⟨d, k⟩
    | .gt => some ⟨d + 1, k⟩
    | .eq => if tie = .up ∨ d % 2 = 1 then some ⟨d + 1, k⟩ else some ⟨d, k⟩

/-- The first grid with a hit, from `10 ^ k` downwards. -/
def firstGrid? (tie : Tie) (x : Binary64) : Nat → Int → Option Decimal
  | 0, _ => none
  | fuel + 1, k =>
    match x.onGrid? tie k with
    | some d => some d
    | none => firstGrid? tie x fuel (k - 1)

/-- An exponent `p` with `x < 10 ^ (p + 1)`, at most two too large: the decimal logarithm by the
ratio 1233 / 4096 of the binary one. -/
def decimalExponent (x : Binary64) : Int :=
  ((x.mant.log2 : Int) + 1 + x.exp) * 1233 / 4096 + 1

/-- The shortest decimal that rounds to the magnitude of `x`; zero is `0 · 10 ^ 0`. Seventeen digits
always do, so twenty-one grids are enough. -/
def shortest (tie : Tie) (x : Binary64) : Decimal :=
  if x.mant = 0 then ⟨0, 0⟩
  else (firstGrid? tie x 21 x.decimalExponent).getD ⟨0, 0⟩

end Binary64

end ItemTable
