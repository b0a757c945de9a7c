import ItemTable.Json

set_option autoImplicit false

/-! # Values as the store keeps them

A stored value is tagged with its type. Numbers are kept as numerals, sets and byte strings have
tags of their own, and an item is a record of values in which order does not count: whoever prints
one sorts it. -/

namespace ItemTable

/-- A value in the store. -/
inductive StoreValue
  | string (s : String)
  | number (numeral : String)
  | bool (b : Bool)
  /-- The tag of nothing; the flag comes with it. -/
  | null (flag : Bool)
  | binary (bytes : List UInt8)
  | stringSet (members : List String)
  | numberSet (numerals : List String)
  | binarySet (members : List (List UInt8))
  | list (elements : List StoreValue)
  | map (entries : List (String × StoreValue))
  /-- A value under a tag that is none of the above. -/
  | unknown
  deriving Inhabited

/-- An item: attribute names and values. -/
abbrev Item := Record StoreValue

namespace StoreValue

/-- Whether the value is a set. -/
def isSet : StoreValue → Bool
  | .stringSet _ | .numberSet _ | .binarySet _ => true
  | _ => false

end StoreValue

end ItemTable
