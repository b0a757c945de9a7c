import ItemTable.Json.Text
import ItemTable.StoreValue
import ItemTable.Text.Base64

set_option autoImplicit false

/-! # Between documents and stored values

`StoreValue.ofJson` stores a document without loss and always succeeds; `StoreValue.toJson` reads a
value back and turns every whole number within 2⁵³ into an integer. Sets and byte strings are stored
only where a caller or a schema asks for them, by `setOfJson`, `binaryOfText` and
`binarySetOfJson`. -/

namespace ItemTable

-- Powers are those of core, whatever else is imported.
attribute [local instance (high)] instPowNat

/-- Why a value has no form on the other side. -/
inductive ConversionError
  /-- A set was asked for and this is no array. -/
  | notAnArray (found : Json)
  | emptySet
  /-- An element of another type than the first one. -/
  | mixedSet (element : Json)
  /-- A first element that is neither a string nor a number. -/
  | unsupportedElement (element : Json)
  /-- A set of byte strings was asked for and this is no array or an empty one. -/
  | notAByteStringArray (found : Json)
  | notAByteString (found : Json)
  | base64 (error : Base64.Error)
  | numeral (error : NumeralError)
  /-- A numeral of no finite number. -/
  | notFinite (numeral : String)
  | unknownTag

namespace ConversionError

/-- The message of a failed conversion. -/
def message : ConversionError → String
  | .notAnArray found => "expected an array for a set, got " ++ found.text
  | .emptySet => "the store does not accept empty sets"
  | .mixedSet element => "mixed set element " ++ element.text
  | .unsupportedElement element => "unsupported set element " ++ element.text
  | .notAByteStringArray found => "expected a non-empty array for a set, got " ++ found.text
  | .notAByteString found => "expected a base64 string, got " ++ found.text
  | .base64 error => error.message
  | .numeral .empty => "cannot parse float from empty string"
  | .numeral .malformed => "invalid float literal"
  | .notFinite text => "invalid number " ++ text
  | .unknownTag => "unsupported store value Unknown"

end ConversionError

namespace StoreValue

mutual
/-- The stored form of a document: each type has its tag, numbers become numerals. -/
def ofJson : Json → StoreValue
  | .null => .null true
  | .bool b => .bool b
  | .number n => .number n.numeral
  | .string s => .string s
  | .array elements => .list (ofElements elements)
  | .object members => .map (ofMembers members)

/-- The stored forms of elements. -/
def ofElements : List Json → List StoreValue
  | [] => []
  | x :: xs => ofJson x :: ofElements xs

/-- The stored forms of members. -/
def ofMembers : List (String × Json) → List (String × StoreValue)
  | [] => []
  | (name, x) :: xs => (name, ofJson x) :: ofMembers xs
end

/-- The item of an object's members. -/
def itemOfMembers (members : Record Json) : Item := ofMembers members

/-- The number of a numeral: an integer if it is spelt as one that fits a word, or if it is whole
and its magnitude is below 2⁵³; a float otherwise. -/
def numberOfNumeral (numeral : String) : Except ConversionError Number :=
  match (readInteger? numeral.toList).bind WordInt.ofInt? with
  | some i => .ok (.int i)
  | none =>
    match readDecimal numeral.toList with
    | .error e => .error (.numeral e)
    | .ok (.finite neg coef exp) =>
      match Binary64.ofDecimal neg coef exp with
      | none => .error (.notFinite numeral)
      | some x =>
        if x.isIntegral ∧ x.truncate.natAbs < 2 ^ (53 : Nat) then
          match WordInt.ofInt? x.truncate with
          | some i => .ok (.int i)
          | none => .ok (.float x)
        else .ok (.float x)
    | .ok _ => .error (.notFinite numeral)

/-- The document of each numeral. -/
def numbersOfNumerals (numerals : List String) : Except ConversionError (List Json) :=
  numerals.mapM fun n => (numberOfNumeral n).map .number

/-- Entries by name, the first fault in that order. -/
def settle (entries : Record (Except ConversionError Json)) :
    Except ConversionError (Record Json) :=
  entries.sort.mapM fun (name, value) => value.map fun v => (name, v)

mutual
/-- The document of a stored value. Byte strings become base64 texts, sets become arrays, and the
members of a map come by name. -/
def toJson : StoreValue → Except ConversionError Json
  | .string s => .ok (.string s)
  | .number numeral => (numberOfNumeral numeral).map .number
  | .bool b => .ok (.bool b)
  | .null _ => .ok .null
  | .binary bytes => .ok (.string (Base64.encode bytes))
  | .stringSet members => .ok (.strings members)
  | .numberSet numerals => (numbersOfNumerals numerals).map .array
  | .binarySet members => .ok (.strings (members.map Base64.encode))
  | .list elements => (toElements elements).map .array
  | .map entries => (settle (toEntries entries)).map .object
  | .unknown => .error .unknownTag

/-- The documents of elements, up to the first fault. -/
def toElements : List StoreValue → Except ConversionError (List Json)
  | [] => .ok []
  | x :: xs => do
    let x ← toJson x
    let xs ← toElements xs
    .ok (x :: xs)

/-- The document of each entry, or its fault. -/
def toEntries : List (String × StoreValue) → List (String × Except ConversionError Json)
  | [] => []
  | (name, x) :: xs => (name, toJson x) :: toEntries xs
end

/-- The members of an item's document, by name. -/
def membersOfItem (item : Item) : Except ConversionError (Record Json) := settle (toEntries item)

/-- The bytes of a base64 text. -/
def bytesOfText (encoded : String) : Except ConversionError (List UInt8) :=
  match Base64.decode encoded with
  | .ok bytes => .ok bytes
  | .error e => .error (.base64 e)

/-- The string that an element is. -/
def stringMember : Json → Except ConversionError String
  | .string s => .ok s
  | other => .error (.mixedSet other)

/-- The text of the number that an element is. -/
def numberMember : Json → Except ConversionError String
  | .number n => .ok n.text
  | other => .error (.mixedSet other)

/-- The byte string that an element spells. -/
def byteStringMember : Json → Except ConversionError (List UInt8)
  | .string encoded => bytesOfText encoded
  | other => .error (.notAByteString other)

/-- The set of an array: strings or numbers, as the first element is, without repeats. Numbers
repeat if their JSON texts do. -/
def setOfJson : Json → Except ConversionError StoreValue
  | .array [] => .error .emptySet
  | .array (.string s :: rest) =>
    ((Json.string s :: rest).mapM stringMember).map fun ss => .stringSet (distinct ss)
  | .array (.number n :: rest) =>
    ((Json.number n :: rest).mapM numberMember).map fun ss => .numberSet (distinct ss)
  | .array (other :: _) => .error (.unsupportedElement other)
  | other => .error (.notAnArray other)

/-- The byte string of a base64 text. -/
def binaryOfText (encoded : String) : Except ConversionError StoreValue :=
  (bytesOfText encoded).map .binary

/-- The set of an array of base64 texts; repeats stay. -/
def binarySetOfJson : Json → Except ConversionError StoreValue
  | .array (x :: xs) => ((x :: xs).mapM byteStringMember).map .binarySet
  | other => .error (.notAByteStringArray other)

end StoreValue

end ItemTable
