import ItemTable.Schema.Storage
import ItemTable.Schema.Validation

set_option autoImplicit false

/-! # The rules of a table

What a table asks of its schema. Rules come from a `Schema`; free rules accept everything. -/

namespace ItemTable

/-- What a table has to know of the items that it holds. -/
structure Rules where
  /-- What is wrong with a whole item. -/
  validate : Json → Option Finding
  /-- What is wrong with a part of an item. -/
  validatePart : Json → Option Finding
  /-- The names that the object at a path has to have. -/
  requiredAt : Path → List String
  primaryKey : List String
  /-- The key attributes of each secondary index. -/
  indexes : Record (List String)
  /-- The stored form of the value at a path. -/
  storeValue : Path → Json → Except ConversionError StoreValue
  /-- The stored form of a whole item. -/
  storeItem : Record Json → Except ConversionError Item

namespace Rules

/-- The rules of a schema. -/
def ofSchema (schema : Schema) : Rules where
  validate := schema.validate
  validatePart := schema.validatePart
  requiredAt := schema.requiredAt
  primaryKey := schema.primaryKey
  indexes := schema.indexes
  storeValue := schema.storeValue
  storeItem := schema.storeItem

/-- Rules that accept everything and store values as they are. -/
def free (primaryKey : List String) : Rules where
  validate _ := none
  validatePart _ := none
  requiredAt _ := []
  primaryKey := primaryKey
  indexes := []
  storeValue _ value := .ok (.ofJson value)
  storeItem item := .ok (StoreValue.itemOfMembers item)

end Rules

end ItemTable
