import ItemTable.Number.Binary64

set_option autoImplicit false

/-! # Reading numerals

An integer numeral is an optional sign and digits. A decimal numeral may have a point, with digits
on at least one side of it, and an exponent; `inf`, `infinity` and `nan` in any case are decimal
numerals too. All digits are ASCII, and a blank belongs to no numeral. -/

namespace ItemTable

/-- The numeral of an integer. -/
def integerText (i : Int) : String :=
  if i < 0 then "-" ++ Nat.repr i.natAbs else Nat.repr i.natAbs

/-- The natural that a list of digits denotes. -/
def digitsValue (digits : List Char) : Nat :=
  digits.foldl (fun n c => 10 * n + (c.toNat - '0'.toNat)) 0

/-- An optional sign, `true` for a minus, and the rest. -/
def splitSign : List Char → Bool × List Char
  | '-' :: rest => (true, rest)
  | '+' :: rest => (false, rest)
  | cs => (false, cs)

/-- The leading digits and the rest. -/
def splitDigits (cs : List Char) : List Char × List Char :=
  (cs.takeWhile Char.isDigit, cs.dropWhile Char.isDigit)

/-- The integer that a whole text denotes. -/
def readInteger? (cs : List Char) : Option Int :=
  let (neg, rest) := splitSign cs
  if rest.isEmpty || !rest.all Char.isDigit then none
  else some (if neg then -(digitsValue rest : Int) else digitsValue rest)

/-- What a decimal numeral denotes. -/
inductive DecimalNumeral
  /-- `± coef · 10 ^ exp` -/
  | finite (neg : Bool) (coef : Nat) (exp : Int)
  | infinite (neg : Bool)
  | notANumber
  deriving DecidableEq, Repr

/-- Why a text is no decimal numeral. -/
inductive NumeralError
  | empty
  | malformed
  deriving DecidableEq, Repr

/-- The exponent part: empty, or a mark, an optional sign and digits. -/
def readExponent? : List Char → Option Int
  | [] => some 0
  | c :: rest => if c = 'e' ∨ c = 'E' then readInteger? rest else none

/-- The fraction digits and what follows them; without a point there are none. -/
def splitFraction : List Char → List Char × List Char
  | '.' :: rest => splitDigits rest
  | cs => ([], cs)

/-- Reads an unsigned finite decimal numeral. -/
def readMagnitude? (cs : List Char) : Option (Nat × Int) :=
  let (whole, afterWhole) := splitDigits cs
  let (fraction, rest) := splitFraction afterWhole
  if whole.isEmpty && fraction.isEmpty then none
  else (readExponent? rest).map fun e => (digitsValue (whole ++ fraction), e - fraction.length)

/-- Reads a whole text as a decimal numeral. -/
def readDecimal (cs : List Char) : Except NumeralError DecimalNumeral :=
  if cs.isEmpty then .error .empty
  else
    let (neg, rest) := splitSign cs
    let word := String.ofList (rest.map Char.toLower)
    if word = "inf" ∨ word = "infinity" then .ok (.infinite neg)
    else if word = "nan" then .ok .notANumber
    else
      match readMagnitude? rest with
      | some (coef, exp) => .ok (.finite neg coef exp)
      | none => .error .malformed

end ItemTable
