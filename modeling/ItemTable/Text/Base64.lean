set_option autoImplicit false

/-! # Base64

The standard alphabet with padding. Decoding accepts the canonical form only and names the first
fault: every group of four before the last is read first, then the last group with its padding, then
the number of symbols, the number of padding signs and the unused bits of the last symbol. -/

namespace ItemTable

namespace Base64

/-- Why a text is no base64, with offsets in bytes. -/
inductive Error
  | invalidSymbol (symbol : UInt8) (offset : Nat)
  | invalidLastSymbol (symbol : UInt8) (offset : Nat)
  | invalidLength (length : Nat)
  | invalidPadding
  deriving DecidableEq, Repr

namespace Error

/-- The message of a fault. -/
def message : Error → String
  | .invalidSymbol symbol offset =>
    "Invalid symbol " ++ Nat.repr symbol.toNat ++ ", offset " ++ Nat.repr offset ++ "."
  | .invalidLastSymbol symbol offset =>
    "Invalid last symbol " ++ Nat.repr symbol.toNat ++ ", offset " ++ Nat.repr offset ++ "."
  | .invalidLength length => "Invalid input length: " ++ Nat.repr length
  | .invalidPadding => "Invalid padding"

end Error

/-- The symbol of a six-bit value, as a code. -/
def symbolCode (v : Nat) : Nat :=
  if v < 26 then 65 + v
  else if v < 52 then 97 + (v - 26)
  else if v < 62 then 48 + (v - 52)
  else if v = 62 then 43 else 47

/-- The six-bit value of a symbol's code. -/
def symbolValue? (code : Nat) : Option Nat :=
  if 65 ≤ code ∧ code ≤ 90 then some (code - 65)
  else if 97 ≤ code ∧ code ≤ 122 then some (code - 97 + 26)
  else if 48 ≤ code ∧ code ≤ 57 then some (code - 48 + 52)
  else if code = 43 then some 62
  else if code = 47 then some 63
  else none

/-- The symbol of a six-bit value. -/
def symbol (v : Nat) : Char := Char.ofNat (symbolCode v)

/-- The symbols of a list of bytes, three bytes to four symbols. -/
def symbols : List UInt8 → List Char
  | [] => []
  | [a] => [symbol (a.toNat / 4), symbol (a.toNat % 4 * 16), '=', '=']
  | [a, b] =>
    [symbol (a.toNat / 4), symbol (a.toNat % 4 * 16 + b.toNat / 16), symbol (b.toNat % 16 * 4), '=']
  | a :: b :: c :: rest =>
    symbol (a.toNat / 4) :: symbol (a.toNat % 4 * 16 + b.toNat / 16)
      :: symbol (b.toNat % 16 * 4 + c.toNat / 64) :: symbol (c.toNat % 64) :: symbols rest

/-- The base64 text of a list of bytes. -/
def encode (bytes : List UInt8) : String := String.ofList (symbols bytes)

/-- The three bytes of four six-bit values. -/
def groupBytes (a b c d : Nat) : List UInt8 :=
  [UInt8.ofNat (a * 4 + b / 16), UInt8.ofNat (b % 16 * 16 + c / 4), UInt8.ofNat (c % 4 * 64 + d)]

/-- The value of the symbol at an offset. -/
def valueAt (offset : Nat) (code : UInt8) : Except Error Nat :=
  match symbolValue? code.toNat with
  | some v => .ok v
  | none => .error (.invalidSymbol code offset)

/-- The values of the symbols of the last group, up to its padding, with the padding's length. -/
def lastGroup : Nat → Nat → List UInt8 → Except Error (List Nat × Nat)
  | _, _, [] => .ok ([], 0)
  | start, index, code :: rest =>
    if code.toNat = 61 then
      if index < 2 then .error (.invalidSymbol code (start + index))
      else if rest.all (fun c => c.toNat == 61) then .ok ([], rest.length + 1)
      else .error (.invalidSymbol code (start + index))
    else do
      let v ← valueAt (start + index) code
      let (vs, padding) ← lastGroup start (index + 1) rest
      .ok (v :: vs, padding)

/-- The bytes of the last group of at most four symbols. -/
def decodeLast (start : Nat) (codes : List UInt8) : Except Error (List UInt8) := do
  let (values, padding) ← lastGroup start 0 codes
  if codes.isEmpty then .ok []
  else if values.length < 2 then .error (.invalidLength (start + values.length))
  else if (values.length + padding) % 4 ≠ 0 then .error .invalidPadding
  else
    let last := (codes[values.length - 1]?).getD 0
    match values with
    | [a, b] =>
      if b % 16 ≠ 0 then .error (.invalidLastSymbol last (start + 1))
      else .ok ((groupBytes a b 0 0).take 1)
    | [a, b, c] =>
      if c % 4 ≠ 0 then .error (.invalidLastSymbol last (start + 2))
      else .ok ((groupBytes a b c 0).take 2)
    | [a, b, c, d] => .ok (groupBytes a b c d)
    | _ => .error .invalidPadding

/-- The bytes of the symbols from an offset on. -/
def decodeFrom (start : Nat) : List UInt8 → Except Error (List UInt8)
  | a :: b :: c :: d :: e :: rest => do
    let a ← valueAt start a
    let b ← valueAt (start + 1) b
    let c ← valueAt (start + 2) c
    let d ← valueAt (start + 3) d
    let bytes ← decodeFrom (start + 4) (e :: rest)
    .ok (groupBytes a b c d ++ bytes)
  | codes => decodeLast start codes

/-- The bytes of a text in UTF-8. -/
def utf8 (text : String) : List UInt8 := text.toList.flatMap String.utf8EncodeChar

/-- The bytes that a base64 text stands for. A symbol that is alone after the last whole group and
outside the alphabet is the first fault to be named. -/
def decode (text : String) : Except Error (List UInt8) :=
  let codes := utf8 text
  match codes.getLast? with
  | some last =>
    if codes.length % 4 = 1 ∧ last.toNat ≠ 61 ∧ symbolValue? last.toNat = none then
      .error (.invalidSymbol last (codes.length - 1))
    else decodeFrom 0 codes
  | none => .ok []

end Base64

end ItemTable
