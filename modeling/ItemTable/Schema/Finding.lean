import ItemTable.Json

set_option autoImplicit false

/-! # Findings

A finding is the one fault of a payload that a caller is told about. -/

namespace ItemTable

/-- The constraint that a payload breaks. -/
inductive FindingKind
  | type
  | required
  | additionalProperties
  | enum
  | minItems
  | maxItems
  /-- Any other keyword. -/
  | other
  deriving DecidableEq, Repr, Inhabited

/-- A fault of a payload. -/
structure Finding where
  kind : FindingKind
  message : String
  /-- Where the faulty value is in the payload. -/
  path : List String
  /-- The values that the place allows, if its type is the fault. -/
  enumValues : List Json
  deriving Inhabited

/-- How a payload is checked before a write. -/
inductive ValidationMode
  /-- A whole item. -/
  | put
  /-- A tree that is merged into an item. -/
  | update
  /-- Paths that are taken away. -/
  | remove
  deriving DecidableEq, Repr

end ItemTable
