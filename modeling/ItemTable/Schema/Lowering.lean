import ItemTable.Json

set_option autoImplicit false

/-! # Store types

A schema may declare four types that JSON lacks: byte strings, given in base64, and sets of strings,
numbers or byte strings, given as arrays. A document is lowered to draft 7 before values are checked
against it: store types become the JSON types that spell them, and a set's node asks for elements
that do not repeat. The node keeps the declared name under a marker.

A document is lowered twice. Payloads that are merged into an item are checked without the names
that `required` lists. -/

namespace ItemTable

/-- A type that only the store has. -/
inductive StoreType
  | bytes
  | stringSet
  | numberSet
  | bytesSet
  deriving DecidableEq, Repr

namespace StoreType

/-- The store type of a name. -/
def ofName? : String → Option StoreType
  | "bytes" => some .bytes
  | "stringSet" => some .stringSet
  | "numberSet" => some .numberSet
  | "bytesSet" => some .bytesSet
  | _ => none

/-- The JSON type of the values that spell a store type. -/
def base : StoreType → String
  | .bytes => "string"
  | _ => "array"

/-- The JSON type of the elements that spell the members of a set. -/
def member? : StoreType → Option String
  | .bytes => none
  | .stringSet => some "string"
  | .numberSet => some "number"
  | .bytesSet => some "string"

/-- The member of a lowered node that holds the name of its store type. -/
def marker : String := "x-dynamodb-type"

/-- Lowers the node that declares a store type by its name. -/
def lowerNode (declared : StoreType) (name : String) (node : Record Json) : Record Json :=
  let typed := node.insert "type" (.string declared.base)
  let whole :=
    match declared.member? with
    | none => typed
    | some member =>
      (typed.insert "items" (.object [("type", .string member)])).insert "uniqueItems" (.bool true)
  whole.insert marker (.string name)

/-- The JSON type of a type name. -/
def lowerName (name : String) : String :=
  match ofName? name with
  | some declared => declared.base
  | none => name

/-- What an element of a list of types is checked as. -/
def asType : Json → Json
  | .string name => .string (lowerName name)
  | other => other

/-- What the elements of a list of types are checked as, given next to their lowered forms; an
element that repeats is dropped. -/
def lowerNames (seen : List Json) : List (Json × Json) → List Json
  | [] => []
  | (declared, lowered) :: rest =>
    if seen.any (·.sameForm (asType declared)) then lowerNames seen rest
    else asType lowered :: lowerNames (asType declared :: seen) rest

end StoreType

namespace Json

/-- The members of a node without the array of required names. -/
def dropRequired (node : Record Json) : Record Json :=
  match node.get? "required" with
  | some (.array _) => node.swapErase "required"
  | _ => node

/-- Lowers the types that a node declared, whose members are lowered already. -/
def lowerTypes (type : Option Json) (node : Record Json) : Record Json :=
  match type, node.get? "type" with
  | some (.string name), _ =>
    match StoreType.ofName? name with
    | some declared => declared.lowerNode name node
    | none => node
  | some (.array names), some (.array lowered) =>
    node.insert "type" (.array (StoreType.lowerNames [] (names.zip lowered)))
  | _, _ => node

/-- The keywords whose values are data and no schemas. -/
def dataKeywords : List String := ["$infrastructure", "const", "default", "enum", "examples"]

mutual
/-- Lowers a document; `keepRequired` says whether required names stay. -/
def lower (keepRequired : Bool) : Json → Json
  | .object members =>
    let node := lowerMembers keepRequired members
    .object (lowerTypes (Record.get? members "type")
      (if keepRequired then node else dropRequired node))
  | .array elements => .array (lowerElements keepRequired elements)
  | other => other

/-- Lowers the elements of an array. -/
def lowerElements (keepRequired : Bool) : List Json → List Json
  | [] => []
  | x :: xs => lower keepRequired x :: lowerElements keepRequired xs

/-- Lowers the members of an object that are no data. -/
def lowerMembers (keepRequired : Bool) : List (String × Json) → List (String × Json)
  | [] => []
  | (name, x) :: xs =>
    (name, if name ∈ dataKeywords then x else lower keepRequired x)
      :: lowerMembers keepRequired xs
end

end Json

end ItemTable
