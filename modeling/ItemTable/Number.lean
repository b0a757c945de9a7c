import ItemTable.Number.Layout
import ItemTable.Number.Numeral

set_option autoImplicit false

/-! # Numbers of documents

A number is an integer that fits a 64-bit word, signed or unsigned, or a binary64 number. `1` and
`1.0` are different numbers of equal value; `Number.compare` orders by value, exactly. -/

namespace ItemTable

-- Powers are those of core, whatever else is imported.
attribute [local instance (high)] instPowNat

/-- An integer that fits a signed or an unsigned 64-bit word. -/
structure WordInt where
  val : Int
  lower : -9223372036854775808 ≤ val
  upper : val < 18446744073709551616
  deriving DecidableEq

namespace WordInt

/-- The integer, if it fits. -/
def ofInt? (i : Int) : Option WordInt :=
  if h : -9223372036854775808 ≤ i ∧ i < 18446744073709551616 then some ⟨i, h.1, h.2⟩ else none

/-- Zero. -/
def zero : WordInt := ⟨0, by decide, by decide⟩

instance : Inhabited WordInt := ⟨zero⟩

end WordInt

/-- A number of a document. -/
inductive Number
  | int (i : WordInt)
  | float (x : Binary64)
  deriving DecidableEq

namespace Number

instance : Inhabited Number := ⟨.int .zero⟩

/-- The number as `coef · 2 ^ exp`. -/
def scaled : Number → Int × Int
  | .int i => (i.val, 0)
  | .float x => (x.coef, x.exp)

/-- The order by value. -/
def compare (a b : Number) : Ordering :=
  let (c, e) := a.scaled
  let (d, f) := b.scaled
  let low := min e f
  Ord.compare (c * 2 ^ (e - low).toNat) (d * 2 ^ (f - low).toNat)

/-- Whether both numbers are integers or both are floats, and of one value. -/
def sameForm : Number → Number → Bool
  | .int i, .int j => i.val == j.val
  | .float x, .float y => (Number.float x).compare (.float y) == .eq
  | _, _ => false

/-- Whether the number has no fractional part. -/
def isIntegral : Number → Bool
  | .int _ => true
  | .float x => x.isIntegral

/-- The nearest binary64 number. -/
def toBinary64 : Number → Binary64
  | .int i => (Binary64.ofInt i.val).getD default
  | .float x => x

/-- The JSON text. -/
def text : Number → String
  | .int i => integerText i.val
  | .float x => Layout.json.text x

/-- The numeral under which the store keeps the number. -/
def numeral : Number → String
  | .int i => integerText i.val
  | .float x => Layout.numeral.text x

/-- Whether the nearest binary64 numbers of `a` and `b` differ by less than 2⁻⁵². The difference
counts as a binary64 number, so it has to be below 2⁻⁵² − 2⁻¹⁰⁶, from where on it is rounded up. -/
def isNear (a b : Number) : Bool :=
  let x := a.toBinary64
  let y := b.toBinary64
  let low := min (min x.exp y.exp) (-106)
  let difference := x.coef * 2 ^ (x.exp - low).toNat - y.coef * 2 ^ (y.exp - low).toNat
  decide (difference.natAbs < (2 ^ (54 : Nat) - 1) * 2 ^ (-106 - low).toNat)

/-- Whether `a` is a multiple of `b`; nothing is one of zero. For a whole `b` that is exact. For any
other `b` the rounded quotient's fractional part has to be below 2⁻⁵², so that every quotient that
is not whole and is negative passes too; where the quotient is too large for a binary64 number, the
shortest decimals of the two decide. -/
def isMultipleOf (a b : Number) : Bool :=
  let x := a.toBinary64
  let y := b.toBinary64
  let e := min x.exp y.exp
  let num := x.mant * 2 ^ (x.exp - e).toNat
  let den := y.mant * 2 ^ (y.exp - e).toNat
  if y.isIntegral then den != 0 && x.isIntegral && num % den == 0
  else
    match Binary64.ofRatio (x.neg != y.neg) num den with
    | some q =>
      -- the fractional part is `r / 2 ^ scale`, with the quotient's sign
      let scale := (-q.exp).toNat
      let r := q.mant % 2 ^ scale
      q.neg || decide (r * 2 ^ (52 : Nat) < 2 ^ scale)
    | none =>
      let p := x.shortest .up
      let q := y.shortest .up
      let e := min p.exp q.exp
      p.coef * 10 ^ (p.exp - e).toNat % (q.coef * 10 ^ (q.exp - e).toNat) == 0

end Number

end ItemTable
