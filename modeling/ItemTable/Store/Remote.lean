import ItemTable.Store.Remote.Batch

set_option autoImplicit false

/-! # Remote stores

The store at the other end of a line. Most requests are one call; batches are as many as they need.
-/

namespace ItemTable

namespace Remote

/-- The exchange for a request. -/
def handle : (request : Request) → Exchange request.Answer
  | .get table key => do
    let members ← send "GetItem" (keyInput [("ConsistentRead", some (.bool true))]
      [("TableName", some (.string table))] key)
    settled (itemMember members "Item")
  | .put request => do
    let _ ← send "PutItem" (putInput request)
    pure ()
  | .update request => do
    let members ← send "UpdateItem" (updateInput request)
    settled (itemMember members "Attributes")
  | .delete table key => do
    let members ← send "DeleteItem" (keyInput []
      [("ReturnValues", some (.string ReturnedAttributes.allOld.word)),
       ("TableName", some (.string table))] key)
    settled (itemMember members "Attributes")
  | .page (.query request) => do
    let members ← send "Query" (queryInput request)
    settled (page members)
  | .page (.scan table start) => do
    let members ← send "Scan" (scanInput table start)
    settled (page members)
  | .batchGet table keys => reads.sendAll table keys
  | .batchDelete table keys => do
    let _ ← writes.sendAll table (keys.map WriteEntry.ofKey)
    pure ()
  | .describe table => do
    let members ← send "DescribeTable" (some (record [("TableName", some (.string table))]))
    settled (description table members)

end Remote

/-- The store at the other end of a line. -/
def remote : Store Line where
  answer request line := Remote.handle request line
  supply line := line.replies.length

end ItemTable
