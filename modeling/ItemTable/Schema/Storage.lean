import ItemTable.Schema
import ItemTable.StoreValue.Convert

set_option autoImplicit false

/-! # Stored forms by schema

A value whose node declares a store type is stored as that type; all else is stored as the JSON that
it is. -/

namespace ItemTable

namespace Schema

/-- The type that a node declares. -/
def declaredType? (node : Option Json) : Option String :=
  (node.bind (·.member? "type")).bind Json.string?

mutual
/-- The stored form of a value at a node. -/
def storeAt (schema : Schema) (node : Option Json) :
    Json → Except ConversionError StoreValue
  | .object members => (storeMembers schema (node.bind schema.resolve?) members).map .map
  | .array elements =>
    let resolved := node.bind schema.resolve?
    match (declaredType? resolved).bind StoreType.ofName? with
    | some .stringSet | some .numberSet => StoreValue.setOfJson (.array elements)
    | some .bytesSet => StoreValue.binarySetOfJson (.array elements)
    | _ => (storeElements schema (resolved.bind (·.member? "items")) elements).map .list
  | .string s =>
    match (declaredType? (node.bind schema.resolve?)).bind StoreType.ofName? with
    | some .bytes => StoreValue.binaryOfText s
    | _ => .ok (.string s)
  | other => .ok (.ofJson other)

/-- The stored forms of elements at one node. -/
def storeElements (schema : Schema) (node : Option Json) :
    List Json → Except ConversionError (List StoreValue)
  | [] => .ok []
  | x :: xs => do
    let x ← storeAt schema node x
    let xs ← storeElements schema node xs
    .ok (x :: xs)

/-- The stored forms of the members of an object at a resolved node. -/
def storeMembers (schema : Schema) (node : Option Json) :
    List (String × Json) → Except ConversionError (List (String × StoreValue))
  | [] => .ok []
  | (name, x) :: xs => do
    let x ← storeAt schema (node.bind (memberNode? · name)) x
    let xs ← storeMembers schema node xs
    .ok ((name, x) :: xs)
end

/-- The stored form of the value at a path. -/
def storeValue (schema : Schema) (path : Path) (value : Json) :
    Except ConversionError StoreValue :=
  storeAt schema (schema.nodeAt? path) value

/-- The stored form of an item, attribute by attribute. -/
def storeItem (schema : Schema) (item : Record Json) : Except ConversionError Item :=
  item.mapM fun (name, value) => (schema.storeValue [.key name] value).map fun v => (name, v)

end Schema

end ItemTable
