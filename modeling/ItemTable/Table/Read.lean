import ItemTable.Query
import ItemTable.Table

set_option autoImplicit false

/-! # Reading tables

Single items, pages and batches. A batch asks for each item once and answers in the order of the
caller's keys. -/

namespace ItemTable

/-- The documents of a page's items, up to the first fault. -/
def Page.documents (page : Page) : Except ConversionError (List (Record Json)) :=
  page.items.mapM StoreValue.membersOfItem

/-- One page of a query's results, and where the next one starts. -/
structure QueryPage where
  items : List (Record Json)
  next : Option Item

namespace Table

/-- Reads one item. -/
def get (table : Table) (input : KeyInput) : Program (Record Json) := do
  let key ← Program.ofExcept (table.key input)
  match ← Program.ask (.get table.physicalName key.item) with
  | some item => Program.convert (StoreValue.membersOfItem item)
  | none => Program.fail (table.notFound key)

/-- What the store says of the table. -/
def describe (table : Table) : Program TableDescription :=
  Program.ask (.describe table.physicalName)

/-- The key shape of what a query reads. -/
def queriedShape (table : Table) (query : Query) : Except Error KeyShape :=
  match query.index with
  | some index => table.indexShape index
  | none => .ok table.shape

/-- Reads one page of a query. -/
def query (table : Table) (query : Query) : Program QueryPage := do
  let shape ← Program.ofExcept (table.queriedShape query)
  let request ← Program.ofExcept (query.request shape table.name table.physicalName)
  let page ← Program.ask (.page (.query request))
  let items ← Program.convert page.documents
  pure ⟨items, page.last⟩

/-- All items of an index under one key of the index. Reading ends at a page that cannot be
converted. -/
def getByIndex (table : Table) (index : String) (input : KeyInput) :
    Program (List (Record Json)) := do
  let shape ← Program.ofExcept (table.indexShape index)
  let key ← Program.ofExcept (table.keyOf shape input)
  let request ← Program.ofExcept
    ((Query.ofKey index key).request shape table.name table.physicalName)
  let pages ← Program.askPages (fun start => .query { request with start := start })
    (fun page => page.documents.isOk)
  let documents ← Program.convert (pages.mapM Page.documents)
  pure documents.flatten

/-- All stored items. -/
def scanItems (table : Table) : Program (List Item) := do
  let pages ← Program.askPages (.scan table.physicalName) (fun _ => true)
  pure (pages.flatMap (·.items))

/-- Reads all items. -/
def scan (table : Table) : Program (List (Record Json)) := do
  let items ← table.scanItems
  Program.convert (items.mapM StoreValue.membersOfItem)

/-- Keys without repeats: of keys with one tuple the first stays. -/
def uniqueKeys (keys : List Key) : List Key :=
  keys.foldl (fun acc key => if acc.any (·.tuple == key.tuple) then acc else acc ++ [key]) []

/-- The key tuple of an item's document. -/
def tupleOf (shape : KeyShape) (item : Record Json) : List String :=
  shape.names.map fun name => Key.component ((item.get? name).getD .null)

/-- The last item with a tuple. -/
def lastWith (shape : KeyShape) (tuple : List String) (items : List (Record Json)) :
    Option (Record Json) :=
  items.reverse.find? fun item => tupleOf shape item == tuple

/-- The items of keys, in the order of the keys. -/
def arrange (shape : KeyShape) (keys : List Key) (items : List (Record Json)) :
    List (List String × Record Json) :=
  (uniqueKeys keys).filterMap fun key =>
    (lastWith shape key.tuple items).map fun item => (key.tuple, item)

/-- The items under keys, each with its tuple; keys without an item are left out. -/
def getManyKeyed (table : Table) (inputs : List KeyInput) :
    Program (List (List String × Record Json)) := do
  let keys ← Program.ofExcept (inputs.mapM table.key)
  if keys.isEmpty then pure []
  else
    let items ← Program.ask
      (.batchGet table.physicalName ((uniqueKeys keys).map Key.item))
    let documents ← Program.convert (items.mapM StoreValue.membersOfItem)
    pure (arrange table.shape keys documents)

/-- The items under keys. -/
def getMany (table : Table) (inputs : List KeyInput) : Program (List (Record Json)) := do
  let items ← table.getManyKeyed inputs
  pure (items.map (·.2))

end Table

end ItemTable
