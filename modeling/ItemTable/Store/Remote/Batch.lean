import ItemTable.Store.Remote.Input
import ItemTable.Store.Remote.Line

set_option autoImplicit false

/-! # Batches

A batch goes out in chunks, and what an answer reports as unprocessed goes out again, for a limited
number of rounds. A chunk starts only after the one before it is done. -/

namespace ItemTable

namespace Remote

/-- The most keys that one call may read. -/
def readLimit : Nat := 100

/-- The most entries that one call may write. -/
def writeLimit : Nat := 25

/-- How often the entries of one chunk are sent. -/
def roundLimit : Nat := 8

/-- A list in pieces of `size`, the last one perhaps shorter. -/
def chunksOf {α : Type} (size : Nat) : List α → List (List α)
  | [] => []
  | x :: xs => (x :: xs.take (size - 1)) :: chunksOf size (xs.drop (size - 1))
  termination_by xs => xs.length
  decreasing_by
    simp only [List.length_drop, List.length_cons]
    omega

/-- The failure of a chunk that is not done after all rounds. -/
def unprocessed (table code : String) (left : Nat) : StoreError :=
  .service code (Nat.repr left ++ " entries of " ++ table ++ " still unprocessed after "
    ++ Nat.repr roundLimit ++ " rounds")

/-- One kind of batch: how entries are sent, and what an output says of them. -/
structure Batch (Entry Result : Type) where
  operation : String
  /-- The most entries that one call may carry. -/
  limit : Nat
  /-- The input of a call that carries entries of a table, if they can be written. -/
  input : String → List Entry → Option Json
  /-- The results in an output, and the entries of the table that have to be sent again. -/
  output : String → Record Json → Except StoreError (List Result × List Entry)
  /-- The code of the failure of a chunk that is not done after all rounds. -/
  failureCode : String

namespace Batch

variable {Entry Result : Type}

/-- One round: the results, and the entries that have to be sent again. -/
def round (batch : Batch Entry Result) (table : String) (entries : List Entry) :
    Exchange (List Result × List Entry) := do
  let members ← send batch.operation (batch.input table entries)
  settled (batch.output table members)

/-- The results of one chunk of entries, in at most `rounds` rounds. -/
def sendChunk (batch : Batch Entry Result) (table : String) :
    Nat → List Entry → Exchange (List Result)
  | _, [] => pure []
  | 0, entries => throw (unprocessed table batch.failureCode entries.length)
  | rounds + 1, entries => do
    let (results, left) ← batch.round table entries
    let others ← sendChunk batch table rounds left
    pure (results ++ others)

/-- The results of all chunks. -/
def sendChunks (batch : Batch Entry Result) (table : String) :
    List (List Entry) → Exchange (List Result)
  | [] => pure []
  | chunk :: rest => do
    let results ← batch.sendChunk table roundLimit chunk
    let others ← sendChunks batch table rest
    pure (results ++ others)

/-- The results of all entries. -/
def sendAll (batch : Batch Entry Result) (table : String) (entries : List Entry) :
    Exchange (List Result) :=
  batch.sendChunks table (chunksOf batch.limit entries)

end Batch

/-- Batches of reads: the entries are keys, and the results items. -/
def reads : Batch Item Item where
  operation := "BatchGetItem"
  limit := readLimit
  input table keys := (allSome (keys.map StoreValue.itemToWire?)).map fun keys =>
    record [("RequestItems", some (.object
      [(table, record [("ConsistentRead", some (.bool true)), ("Keys", some (.array keys))])]))]
  output table members := do
    let items ← member members "Responses" [] (ofTable table [] (readList StoreValue.itemOfWire?))
    let left ← member members "UnprocessedKeys" [] (ofTable table [] fun part =>
      part.object?.bind fun rest => (itemsMember rest "Keys").toOption)
    .ok (items, left)
  failureCode := "UnprocessedKeys"

/-- An entry of a batch of writes. -/
structure WriteEntry where
  delete : Option Item
  put : Option Item

namespace WriteEntry

/-- The entry that deletes the item of a key. -/
def ofKey (key : Item) : WriteEntry := ⟨some key, none⟩

/-- The wire form of an entry. -/
def toWire? (entry : WriteEntry) : Option Json := do
  let key ← itemInput entry.delete
  let item ← itemInput entry.put
  some (record
    [("DeleteRequest", key.map fun key => record [("Key", some key)]),
     ("PutRequest", item.map fun item => record [("Item", some item)])])

/-- The item under a name; one without attributes if it is missing. -/
def part? (name : String) (value : Json) : Option (Option Item) :=
  value.object?.bind fun members =>
    ((itemMember members name).toOption).map fun item => some (item.getD [])

/-- The entry of a wire form. -/
def ofWire? (value : Json) : Option WriteEntry :=
  value.object?.bind fun members => do
    let delete ← (member members "DeleteRequest" none (part? "Key")).toOption
    let put ← (member members "PutRequest" none (part? "Item")).toOption
    some ⟨delete, put⟩

end WriteEntry

/-- Batches of writes, which have no results. -/
def writes : Batch WriteEntry Empty where
  operation := "BatchWriteItem"
  limit := writeLimit
  input table entries := (allSome (entries.map WriteEntry.toWire?)).map fun entries =>
    record [("RequestItems", some (.object [(table, .array entries)]))]
  output table members := do
    let left ← member members "UnprocessedItems" []
      (ofTable table [] (readList WriteEntry.ofWire?))
    .ok ([], left)
  failureCode := "UnprocessedItems"

end Remote

end ItemTable
