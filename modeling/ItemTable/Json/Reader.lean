import ItemTable.Json

set_option autoImplicit false

/-! # Reading JSON texts

`Json.read?` reads a whole text by the grammar of JSON: four blanks, no trailing commas, no leading
zeros, surrogates only in pairs, nesting up to a given depth. Of repeated names the last value
counts. An integer numeral that fits a 64-bit word is an integer, with the exception of `-0`; every
other numeral is the nearest binary64 number, and there has to be one. -/

namespace ItemTable

namespace Json

/-- The four blanks. -/
def isBlank (c : Char) : Bool := c = ' ' || c = '\t' || c = '\n' || c = '\r'

/-- The text without leading blanks. -/
def skipBlanks (cs : List Char) : List Char := cs.dropWhile isBlank

/-- The value of a hexadecimal digit. -/
def hexValue? (c : Char) : Option Nat :=
  if c.isDigit then some (c.toNat - '0'.toNat)
  else if 'a' ≤ c ∧ c ≤ 'f' then some (c.toNat - 'a'.toNat + 10)
  else if 'A' ≤ c ∧ c ≤ 'F' then some (c.toNat - 'A'.toNat + 10)
  else none

/-- Four hexadecimal digits. -/
def readHex4? : List Char → Option (Nat × List Char)
  | a :: b :: c :: d :: rest => do
    let a ← hexValue? a
    let b ← hexValue? b
    let c ← hexValue? c
    let d ← hexValue? d
    some (((a * 16 + b) * 16 + c) * 16 + d, rest)
  | _ => none

/-- The character after a backslash and `u`: one unit, or a high and a low surrogate. -/
def readUnicode? (cs : List Char) : Option (Char × List Char) :=
  match readHex4? cs with
  | none => none
  | some (high, rest) =>
    if 0xD800 ≤ high ∧ high < 0xDC00 then
      match rest with
      | '\\' :: 'u' :: rest' =>
        match readHex4? rest' with
        | some (low, rest'') =>
          if 0xDC00 ≤ low ∧ low < 0xE000 then
            some (Char.ofNat (0x10000 + (high - 0xD800) * 0x400 + (low - 0xDC00)), rest'')
          else none
        | none => none
      | _ => none
    else if 0xDC00 ≤ high ∧ high < 0xE000 then none
    else some (Char.ofNat high, rest)

/-- The character that a letter after a backslash stands for. -/
def escaped? (c : Char) : Option Char :=
  match c with
  | '"' => some '"'
  | '\\' => some '\\'
  | '/' => some '/'
  | 'b' => some (Char.ofNat 8)
  | 'f' => some (Char.ofNat 12)
  | 'n' => some '\n'
  | 'r' => some '\r'
  | 't' => some '\t'
  | _ => none

/-- The characters up to the closing quote, in reverse before `acc`. -/
def readCharacters? : Nat → List Char → List Char → Option (String × List Char)
  | 0, _, _ => none
  | _ + 1, _, [] => none
  | fuel + 1, acc, c :: rest =>
    if c = '"' then some (String.ofList acc.reverse, rest)
    else if c = '\\' then
      match rest with
      | 'u' :: rest' =>
        match readUnicode? rest' with
        | some (c', rest'') => readCharacters? fuel (c' :: acc) rest''
        | none => none
      | e :: rest' =>
        match escaped? e with
        | some c' => readCharacters? fuel (c' :: acc) rest'
        | none => none
      | [] => none
    else if c.toNat < 32 then none
    else readCharacters? fuel (c :: acc) rest

/-- A string after its opening quote. -/
def readString? (cs : List Char) : Option (String × List Char) :=
  readCharacters? (cs.length + 1) [] cs

/-- Whether a character may stand in a number. -/
def isNumberChar (c : Char) : Bool :=
  c.isDigit || c = '-' || c = '+' || c = '.' || c = 'e' || c = 'E'

/-- The number of an unsigned token: digits without a leading zero, then perhaps a fraction and an
exponent. -/
def readUnsigned? (neg : Bool) (cs : List Char) : Option Number :=
  let (whole, afterWhole) := splitDigits cs
  let leadingZero := whole.head? = some '0' ∧ 1 < whole.length
  if whole.isEmpty ∨ leadingZero then none
  else if afterWhole.isEmpty then
    let value : Int := if neg then -(digitsValue whole : Int) else digitsValue whole
    match WordInt.ofInt? value with
    | some i =>
      if neg && value == 0 then some (.float (.zero true)) else some (.int i)
    | none => (Binary64.ofDecimal neg (digitsValue whole) 0).map .float
  else
    let (fraction, rest) := splitFraction afterWhole
    if fraction.isEmpty ∧ afterWhole.head? = some '.' then none
    else
      match readExponent? rest with
      | none => none
      | some e =>
        (Binary64.ofDecimal neg (digitsValue (whole ++ fraction)) (e - fraction.length)).map .float

/-- The number of a whole token. -/
def numberOfToken? : List Char → Option Number
  | '-' :: rest => readUnsigned? true rest
  | cs => readUnsigned? false cs

/-- The text after `word`, if it starts with it. -/
def afterWord? (word : String) (cs : List Char) : Option (List Char) :=
  let w := word.toList
  if w.isPrefixOf cs then some (cs.drop w.length) else none

mutual
/-- One value and the rest of the text, with at most `depth` arrays and objects around each other.
-/
def readValue? : Nat → Nat → List Char → Option (Json × List Char)
  | 0, _, _ => none
  | fuel + 1, depth, cs =>
    match skipBlanks cs with
    | [] => none
    | c :: rest =>
      if c = '"' then (readString? rest).map fun (s, r) => (.string s, r)
      else if c = '[' then
        match depth, skipBlanks rest with
        | 0, _ => none
        | _ + 1, ']' :: r => some (.array [], r)
        | d + 1, r => (readElements? fuel d [] r).map fun (xs, r) => (.array xs, r)
      else if c = '\x7b' then
        match depth, skipBlanks rest with
        | 0, _ => none
        | _ + 1, '\x7d' :: r => some (.object [], r)
        | d + 1, r => (readMembers? fuel d [] r).map fun (ms, r) => (.object ms, r)
      else if c = 'n' then (afterWord? "ull" rest).map fun r => (.null, r)
      else if c = 't' then (afterWord? "rue" rest).map fun r => (.bool true, r)
      else if c = 'f' then (afterWord? "alse" rest).map fun r => (.bool false, r)
      else
        let token := (c :: rest).takeWhile isNumberChar
        (numberOfToken? token).map fun n => (.number n, (c :: rest).dropWhile isNumberChar)

/-- The elements of an array up to its closing bracket. -/
def readElements? : Nat → Nat → List Json → List Char → Option (List Json × List Char)
  | 0, _, _, _ => none
  | fuel + 1, depth, acc, cs =>
    match readValue? fuel depth cs with
    | none => none
    | some (x, rest) =>
      match skipBlanks rest with
      | ',' :: r => readElements? fuel depth (x :: acc) r
      | ']' :: r => some ((x :: acc).reverse, r)
      | _ => none

/-- The members of an object up to its closing brace. -/
def readMembers? : Nat → Nat → Record Json → List Char → Option (Record Json × List Char)
  | 0, _, _, _ => none
  | fuel + 1, depth, acc, cs =>
    match skipBlanks cs with
    | '"' :: rest =>
      match readString? rest with
      | none => none
      | some (name, rest) =>
        match skipBlanks rest with
        | ':' :: rest =>
          match readValue? fuel depth rest with
          | none => none
          | some (x, rest) =>
            match skipBlanks rest with
            | ',' :: r => readMembers? fuel depth (Record.insert acc name x) r
            | '\x7d' :: r => some (Record.insert acc name x, r)
            | _ => none
        | _ => none
    | _ => none
end

/-- The document of a whole text, nested at most `depth` deep. A value needs at least one character,
and a call is spent at most twice on one. -/
def read? (depth : Nat) (text : String) : Option Json :=
  let cs := text.toList
  match readValue? (2 * cs.length + 2) depth cs with
  | some (value, rest) => if (skipBlanks rest).isEmpty then some value else none
  | none => none

end Json

end ItemTable
