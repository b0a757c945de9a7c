import ItemTable.Store.Request
import ItemTable.StoreValue.Wire

set_option autoImplicit false

/-! # Inputs of calls

The documents that requests become. A member that is unset is not sent, and neither is a table of
placeholders without entries. Requests with a value under an unknown tag have no input. -/

namespace ItemTable

namespace Remote

/-- An object of the members that are given. -/
def record (members : List (String × Option Json)) : Json :=
  .object (members.filterMap fun (name, value) => value.map fun v => (name, v))

/-- The names of placeholders; none are not sent. -/
def namesInput (names : Record String) : Option Json :=
  if names.isEmpty then none
  else some (.object (Record.sort (names.map fun (name, value) => (name, .string value))))

/-- The values of placeholders, if they can be written; none are not sent. -/
def valuesInput (values : Item) : Option (Option Json) :=
  if values.isEmpty then some none else (StoreValue.itemToWire? values).map some

/-- An item that may be unset. -/
def itemInput (item : Option Item) : Option (Option Json) :=
  match item with
  | none => some none
  | some item => (StoreValue.itemToWire? item).map some

/-- The input of a put. -/
def putInput (request : PutRequest) : Option Json := do
  let item ← StoreValue.itemToWire? request.item
  let values ← valuesInput request.terms.values
  some (record
    [("ConditionExpression", request.terms.condition.map .string),
     ("ExpressionAttributeNames", namesInput request.terms.names),
     ("ExpressionAttributeValues", values),
     ("Item", some item),
     ("TableName", some (.string request.terms.table))])

/-- The input of an update. -/
def updateInput (request : UpdateRequest) : Option Json := do
  let key ← StoreValue.itemToWire? request.key
  let values ← valuesInput request.terms.values
  some (record
    [("ConditionExpression", request.terms.condition.map .string),
     ("ExpressionAttributeNames", namesInput request.terms.names),
     ("ExpressionAttributeValues", values),
     ("Key", some key),
     ("ReturnValues", request.terms.returns.map fun r => .string r.word),
     ("TableName", some (.string request.terms.table)),
     ("UpdateExpression", some (.string request.update))])

/-- The input of a query. -/
def queryInput (request : QueryRequest) : Option Json := do
  let start ← itemInput request.start
  let values ← valuesInput request.values
  some (record
    [("ExclusiveStartKey", start),
     ("ExpressionAttributeNames", namesInput request.names),
     ("ExpressionAttributeValues", values),
     ("IndexName", request.index.map .string),
     ("KeyConditionExpression", some (.string request.condition)),
     ("Limit", request.limit.map .ofInt),
     ("ProjectionExpression", request.projection.map .string),
     ("ScanIndexForward", request.forward.map .bool),
     ("TableName", some (.string request.table))])

/-- The input of a scan. -/
def scanInput (table : String) (start : Option Item) : Option Json := do
  let start ← itemInput start
  some (record [("ExclusiveStartKey", start), ("TableName", some (.string table))])

/-- The input that names one item by its key, after the members `before`. -/
def keyInput (before after : List (String × Option Json)) (key : Item) : Option Json :=
  (StoreValue.itemToWire? key).map fun key => record (before ++ [("Key", some key)] ++ after)

end Remote

end ItemTable
