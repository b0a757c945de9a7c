import ItemTable.StoreValue.Wire

set_option autoImplicit false

/-! # Shapes of replies

A reply is read as a whole: each member that is known has to have its shape, whether its content is
used or not. A known member of a record may be `null`, and members without a shape may hold
anything. An element of a list or an entry of a table may not be `null`. -/

namespace ItemTable

-- Powers are those of core, whatever else is imported.
attribute [local instance (high)] instPowNat

namespace Remote

/-- What a part of a reply has to look like. -/
inductive Shape
  | text
  | flag
  /-- A number, or the name of one that is not finite. -/
  | decimal
  /-- A whole number that fits a signed word of so many bits. -/
  | whole (bits : Nat)
  /-- A point in time, in seconds. -/
  | instant
  /-- A stored value. -/
  | value
  | list (element : Shape)
  /-- An object under names of any kind. -/
  | table (entry : Shape)
  /-- An object whose known members have shapes. -/
  | record (members : List (String × Shape))
  deriving Inhabited

namespace Shape

/-- The shape of an item or a key. -/
def item : Shape := .table .value

/-- The texts that stand for the numbers that are not finite. -/
def notFinite : List String := ["NaN", "Infinity", "-Infinity"]

/-- The nearest whole number towards zero. -/
def truncated : Number → Int
  | .int i => i.val
  | .float x => x.truncate

/-- Whether a value without parts has a shape. -/
def fitsPlain : Shape → Json → Bool
  | .text, .string _ => true
  | .flag, .bool _ => true
  | .decimal, .number _ => true
  | .decimal, .string s => notFinite.contains s
  | .whole bits, .number n =>
    let limit : Int := 2 ^ (bits - 1)
    n.isIntegral && decide (-limit ≤ truncated n ∧ truncated n < limit)
  | .instant, .number _ => true
  | .value, stored => (StoreValue.ofWire? stored).isSome
  | _, _ => false

mutual
/-- Whether a value has a shape. -/
def fits (shape : Shape) : Json → Bool
  | .array elements =>
    match shape with
    | .list element => elementsFit element elements
    | other => fitsPlain other (.array elements)
  | .object members =>
    match shape with
    | .table entry => entriesFit entry members
    | .record known => membersFit known members
    | other => fitsPlain other (.object members)
  | .null => fitsPlain shape .null
  | .bool b => fitsPlain shape (.bool b)
  | .number n => fitsPlain shape (.number n)
  | .string s => fitsPlain shape (.string s)

/-- Whether all elements have a shape. -/
def elementsFit (element : Shape) : List Json → Bool
  | [] => true
  | x :: rest => fits element x && elementsFit element rest

/-- Whether all entries have a shape. -/
def entriesFit (entry : Shape) : List (String × Json) → Bool
  | [] => true
  | (_, x) :: rest => fits entry x && entriesFit entry rest

/-- Whether the known members have their shapes or are `null`. -/
def membersFit (known : List (String × Shape)) : List (String × Json) → Bool
  | [] => true
  | (name, x) :: rest =>
    (match Record.get? known name with
      | some shape => x.isNull || fits shape x
      | none => true) && membersFit known rest
end

end Shape

end Remote

end ItemTable
