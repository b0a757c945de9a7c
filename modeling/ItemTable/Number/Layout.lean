import ItemTable.Number.Shortest

set_option autoImplicit false

/-! # Decimal texts of binary64 numbers

A text spells the shortest decimal of a number, either with the point in its place or with an
exponent. A `Layout` holds the decisions; JSON documents and the store's numerals each have one. -/

namespace ItemTable

/-- How a binary64 number is written. The decimal is seen as `0.d₁d₂… · 10 ^ point`. -/
structure Layout where
  /-- Which of two equally near shortest decimals is written. -/
  tie : Tie
  /-- From which to which `point` no exponent is used; `none` is every `point`. -/
  positional : Option (Int × Int)
  /-- What follows a whole number written without exponent. -/
  wholeSuffix : String

namespace Layout

/-- JSON numbers are positional from 10⁻⁵ to below 10¹⁶, and a whole one keeps a zero after the
point, so that a float is never read back as an integer. -/
def json : Layout := ⟨.toEven, some (-4, 16), ".0"⟩

/-- The store's numerals never have an exponent, nor a point without need. -/
def numeral : Layout := ⟨.up, none, ""⟩

/-- `digits` with the decimal point after the first `point` of them. -/
def positionalText (layout : Layout) (digits : List Char) (point : Int) : String :=
  let count : Int := digits.length
  if point ≤ 0 then
    "0." ++ String.ofList (List.replicate (-point).toNat '0' ++ digits)
  else if count ≤ point then
    String.ofList (digits ++ List.replicate (point - count).toNat '0') ++ layout.wholeSuffix
  else
    String.ofList (digits.take point.toNat) ++ "." ++ String.ofList (digits.drop point.toNat)

/-- `digits` with one of them before the point and a signed exponent. -/
def scientificText (digits : List Char) (point : Int) : String :=
  let exponent := point - 1
  let sign := if exponent < 0 then "-" else "+"
  let fraction := digits.drop 1
  String.ofList (digits.take 1)
    ++ (if fraction.isEmpty then "" else "." ++ String.ofList fraction)
    ++ "e" ++ sign ++ Nat.repr exponent.natAbs

/-- Whether a decimal with this `point` is written without exponent. -/
def isPositional (layout : Layout) (point : Int) : Bool :=
  match layout.positional with
  | none => true
  | some (low, high) => decide (low ≤ point ∧ point ≤ high)

/-- The text of the magnitude of `x`. -/
def magnitude (layout : Layout) (x : Binary64) : String :=
  if x.mant = 0 then "0" ++ layout.wholeSuffix
  else
    let d := x.shortest layout.tie
    let digits := Nat.toDigits 10 d.coef
    let point : Int := d.exp + digits.length
    if layout.isPositional point then layout.positionalText digits point
    else scientificText digits point

/-- The text of `x`; zero has a sign too. -/
def text (layout : Layout) (x : Binary64) : String :=
  (if x.neg then "-" else "") ++ layout.magnitude x

end Layout

end ItemTable
