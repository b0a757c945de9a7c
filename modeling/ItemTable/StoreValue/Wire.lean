import ItemTable.StoreValue
import ItemTable.Text.Base64

set_option autoImplicit false

/-! # Stored values on the wire

On the wire a value is an object with one member, named for its tag. A value under a tag that nobody
knows can be read and cannot be written. A member that is `null` or named `__type` counts as absent;
an entry of a map or an element of a list may not be `null`. -/

namespace ItemTable

/-- All results, if each is there. -/
def allSome {α : Type} : List (Option α) → Option (List α)
  | [] => some []
  | x :: xs => x.bind fun x => (allSome xs).map (x :: ·)

namespace StoreValue

mutual
/-- The wire form of a value; members come by name. -/
def toWire? : StoreValue → Option Json
  | .string s => some (.object [("S", .string s)])
  | .number numeral => some (.object [("N", .string numeral)])
  | .bool b => some (.object [("BOOL", .bool b)])
  | .null flag => some (.object [("NULL", .bool flag)])
  | .binary bytes => some (.object [("B", .string (Base64.encode bytes))])
  | .stringSet members => some (.object [("SS", .strings members)])
  | .numberSet numerals => some (.object [("NS", .strings numerals)])
  | .binarySet members => some (.object [("BS", .strings (members.map Base64.encode))])
  | .list elements => (elementsToWire? elements).map fun xs => .object [("L", .array xs)]
  | .map entries =>
    (entriesToWire? entries).map fun es => .object [("M", .object (Record.sort es))]
  | .unknown => none

/-- The wire forms of elements. -/
def elementsToWire? : List StoreValue → Option (List Json)
  | [] => some []
  | x :: xs => (toWire? x).bind fun x => (elementsToWire? xs).map (x :: ·)

/-- The wire forms of entries. -/
def entriesToWire? : List (String × StoreValue) → Option (List (String × Json))
  | [] => some []
  | (name, x) :: xs => (toWire? x).bind fun x => (entriesToWire? xs).map ((name, x) :: ·)
end

/-- The bytes of a base64 document. -/
def bytesOfWire? : Json → Option (List UInt8)
  | .string encoded => (Base64.decode encoded).toOption
  | _ => none

/-- Whether a member of a wire form does not count. -/
def isAbsent (member : String × Json) : Bool := member.2.isNull || member.1 == "__type"

mutual
/-- The value of a wire form. -/
def ofWire? : Json → Option StoreValue
  | .object members => ofTagged? members
  | _ => none

/-- The value of the one member that counts. -/
def ofTagged? : List (String × Json) → Option StoreValue
  | [] => none
  | (tag, value) :: rest =>
    if isAbsent (tag, value) then ofTagged? rest
    else if rest.all isAbsent then
      match tag, value with
      | "S", .string s => some (.string s)
      | "N", .string numeral => some (.number numeral)
      | "BOOL", .bool b => some (.bool b)
      | "NULL", .bool b => some (.null b)
      | "B", encoded => (bytesOfWire? encoded).map .binary
      | "SS", .array xs => (allSome (xs.map Json.string?)).map .stringSet
      | "NS", .array xs => (allSome (xs.map Json.string?)).map .numberSet
      | "BS", .array xs => (allSome (xs.map bytesOfWire?)).map .binarySet
      | "L", .array xs => (ofElements? xs).map .list
      | "M", .object ms => (ofEntries? ms).map .map
      | "S", _ | "N", _ | "BOOL", _ | "NULL", _ | "SS", _ | "NS", _ | "BS", _ | "L", _
      | "M", _ => none
      | _, _ => some .unknown
    else none

/-- The values of wire forms. -/
def ofElements? : List Json → Option (List StoreValue)
  | [] => some []
  | x :: xs => (ofWire? x).bind fun x => (ofElements? xs).map (x :: ·)

/-- The entries of named wire forms. -/
def ofEntries? : List (String × Json) → Option (List (String × StoreValue))
  | [] => some []
  | (name, x) :: xs => (ofWire? x).bind fun x => (ofEntries? xs).map ((name, x) :: ·)
end

/-- The wire form of an item, by name. -/
def itemToWire? (item : Item) : Option Json :=
  (entriesToWire? item).map fun es => .object (Record.sort es)

/-- The item of a wire form. -/
def itemOfWire? : Json → Option Item
  | .object members => ofEntries? members
  | _ => none

end StoreValue

end ItemTable
