import ItemTable.Table.Read

set_option autoImplicit false

/-! # Whole items

An item is checked before it is written, and its key attributes have to make a key of the table.
Without leave to overwrite, the request asks that no item has that key. -/

namespace ItemTable

namespace Table

/-- The key attributes that an item has. -/
def keyMembers (table : Table) (item : Record Json) : Record Json :=
  Record.ofEntries (table.shape.names.filterMap fun name =>
    (item.get? name).map fun value => (name, value))

/-- The paths of the key attributes. -/
def keyPaths (table : Table) : List Path := table.shape.names.map fun name => [.key name]

/-- The request that writes an item; `overwrite` lets it replace one. -/
def putRequest (table : Table) (item : Item) (overwrite : Bool) : PutRequest :=
  let names := Names.empty.seePaths table.keyPaths
  let absent := Condition.guarded [] table.keyPaths names none
  { item := item
    terms :=
      { table := table.physicalName
        condition := if overwrite then none else absent.map (·.text)
        names := if overwrite then [] else names.table
        values := []
        returns := none } }

/-- Checks and writes an item, and gives its stored form. -/
def insert (table : Table) (item : Record Json) (overwrite : Bool) : Program Item := do
  Program.ofExcept (table.checkItem item)
  let _ ← Program.ofExcept (table.key (.mapping (table.keyMembers item)))
  let stored ← Program.convert (table.rules.storeItem item)
  match ← Program.attempt (.put (table.putRequest stored overwrite)) with
  | .ok _ => pure stored
  | .error (.conditionFailed _) => Program.fail (.alreadyExists table.name (Json.object item).text)
  | .error error => Program.fail (.store error)

/-- Checks and writes an item. -/
def put (table : Table) (item : Record Json) (overwrite : Bool) : Program Unit := do
  let _ ← table.insert item overwrite
  pure ()

/-- Deletes the item of a key and gives the stored one, if there was any. -/
def deleteStored (table : Table) (key : Key) : Program (Option Item) :=
  Program.ask (.delete table.physicalName key.item)

/-- Deletes an item; with `requireExists` there has to be one. -/
def delete (table : Table) (input : KeyInput) (requireExists : Bool) : Program Unit := do
  let key ← Program.ofExcept (table.key input)
  let old ← table.deleteStored key
  if old.isNone && requireExists then Program.fail (table.notFound key) else pure ()

/-- Deletes an item and gives it back. -/
def take (table : Table) (input : KeyInput) : Program (Record Json) := do
  let key ← Program.ofExcept (table.key input)
  match ← table.deleteStored key with
  | some item => Program.convert (StoreValue.membersOfItem item)
  | none => Program.fail (table.notFound key)

/-- Deletes all items and gives their number. Nothing is deleted before all pages are read. -/
def truncate (table : Table) : Program Nat := do
  let items ← table.scanItems
  let keys := items.map table.shape.project
  if keys.isEmpty then pure 0
  else
    let _ ← Program.ask (.batchDelete table.physicalName keys)
    pure keys.length

end Table

end ItemTable
