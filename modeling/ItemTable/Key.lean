import ItemTable.StoreValue.Convert

set_option autoImplicit false

/-! # Primary keys

A table or an index has one or two key attributes, its `KeyShape`. A caller names an item by a bare
value, a pair or a mapping; `KeyShape.normalize` turns that into a `Key`, whose names are the
shape's, or says what is missing or wrong. -/

namespace ItemTable

/-- The key attributes of a table or an index. -/
inductive KeyShape
  | simple (hash : String)
  | composite (hash sort : String)
  deriving DecidableEq, Repr

namespace KeyShape

/-- The shape of one or two names. -/
def ofNames? : List String → Option KeyShape
  | [hash] => some (.simple hash)
  | [hash, sort] => some (.composite hash sort)
  | _ => none

/-- The key attributes' names, the partition's first. -/
def names : KeyShape → List String
  | .simple hash => [hash]
  | .composite hash sort => [hash, sort]

/-- The attribute that chooses the partition. -/
def hash : KeyShape → String
  | .simple hash => hash
  | .composite hash _ => hash

/-- The attribute that sorts a partition. -/
def sort? : KeyShape → Option String
  | .simple _ => none
  | .composite _ sort => some sort

end KeyShape

/-- A key as a caller gives it. -/
inductive KeyInput
  | scalar (value : Json)
  | pair (hash sort : Json)
  | mapping (entries : Record Json)

/-- An object is a mapping, an array of two a pair, anything else a bare value. -/
def KeyInput.ofJson : Json → KeyInput
  | .object members => .mapping members
  | .array [hash, sort] => .pair hash sort
  | other => .scalar other

/-- A key attribute and its value. -/
structure KeyPart where
  name : String
  value : Json

/-- A key that fits a shape. -/
structure Key where
  hash : KeyPart
  sort : Option KeyPart

/-- Why a caller's key does not fit. -/
inductive KeyFault
  /-- Key attributes without a value. -/
  | missing (names : List String)
  /-- What was given instead of the key attributes. -/
  | wrong (given : List String)
  deriving DecidableEq, Repr

namespace Key

/-- The parts of the key, the partition's first. -/
def parts (key : Key) : List KeyPart := key.hash :: key.sort.toList

/-- The key as part of an item. -/
def members (key : Key) : Record Json := Record.ofEntries (key.parts.map fun p => (p.name, p.value))

/-- The key as a JSON text. -/
def text (key : Key) : String := (Json.object key.members).text

/-- The key as the store takes it. -/
def item (key : Key) : Item :=
  Record.ofEntries (key.parts.map fun p => (p.name, StoreValue.ofJson p.value))

/-- A key value as a text that is the same for equal stored values: numbers in the form in which
they come back from the store, strings bare, anything else as JSON. -/
def component (value : Json) : String :=
  let settled :=
    match value with
    | .number _ => ((StoreValue.ofJson value).toJson.toOption).getD value
    | other => other
  match settled with
  | .string s => s
  | other => other.text

/-- The key's values as texts. -/
def tuple (key : Key) : List String := key.parts.map fun p => component p.value

end Key

namespace KeyShape

/-- The names of the shape to which a mapping gives no value other than `null`. -/
def missingIn (shape : KeyShape) (entries : Record Json) : List String :=
  shape.names.filter fun name => ((entries.get? name).getD .null).isNull

/-- The value of a mapping's entry; `null` if there is none. -/
def partOf (entries : Record Json) (name : String) : KeyPart :=
  ⟨name, (entries.get? name).getD .null⟩

/-- The key of a mapping that has all key attributes. Each entry is used once, so a shape that names
one attribute twice gets no second value. -/
def keyOfMapping (shape : KeyShape) (entries : Record Json) : Key :=
  { hash := partOf entries shape.hash
    sort := shape.sort?.map (partOf (entries.erase shape.hash)) }

/-- The key that a caller means. -/
def normalize (shape : KeyShape) (input : KeyInput) : Except KeyFault Key :=
  match shape, input with
  | .simple hash, .scalar value =>
    if value.isNull then .error (.wrong [value.text]) else .ok ⟨⟨hash, value⟩, none⟩
  | .composite hash sort, .pair h s =>
    if h.isNull || s.isNull then .error (.wrong [h.text, s.text])
    else .ok ⟨⟨hash, h⟩, some ⟨sort, s⟩⟩
  | .composite _ sort, .scalar _ => .error (.missing [sort])
  | .simple _, .pair h s => .error (.wrong [h.text, s.text])
  | shape, .mapping entries =>
    let missing := shape.missingIn entries
    if !missing.isEmpty then .error (.missing missing)
    else if shape.names.length < entries.length then .error (.wrong entries.names)
    else .ok (shape.keyOfMapping entries)

/-- The key attributes of a stored item. -/
def project (shape : KeyShape) (item : Item) : Item :=
  Record.ofEntries (shape.names.filterMap fun name => (item.get? name).map fun v => (name, v))

end KeyShape

end ItemTable
