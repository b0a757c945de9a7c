import ItemTable.Condition
import ItemTable.Error
import ItemTable.Key
import ItemTable.Store.Request

set_option autoImplicit false

/-! # Queries

A query asks for the items of one partition, of a table or of an index, and may narrow them by a
test of the sort attribute. -/

namespace ItemTable

/-- A query, page by page. -/
structure Query where
  /-- The index to read; the table itself otherwise. -/
  index : Option String
  partition : Json
  /-- What has to hold of the sort attribute. -/
  sort : Option Test
  /-- The paths to return; all if there are none. -/
  projection : List Path
  /-- Where the page starts. -/
  start : Option Item
  limit : Option Int
  forward : Option Bool

namespace Query

/-- The query for a whole partition of an index. -/
def ofKey (index : String) (key : Key) : Query where
  index := some index
  partition := key.hash.value
  sort := key.sort.map fun part => .compare .eq part.value
  projection := []
  start := none
  limit := none
  forward := none

/-- What has to hold of the key attributes; a shape without a sort attribute takes no test of it. -/
def condition? (query : Query) (shape : KeyShape) : Option Condition :=
  let partition : AttributeTest := ⟨shape.hash, .compare .eq query.partition⟩
  match query.sort, shape.sort? with
  | none, _ => some [partition]
  | some test, some name => some [partition, ⟨name, test⟩]
  | some _, none => none

/-- The names and values of a condition and of a projection, the latter if it has paths. -/
def expressions (query : Query) (condition : Condition) : Expression × Option Expression :=
  let condition := condition.compile
  if query.projection.isEmpty then (condition, none)
  else
    let projection := Expression.projection query.projection
    ({ condition with names := condition.names.merge projection.names }, some projection)

/-- The request for a page, given the key shape of what is read. -/
def request (query : Query) (shape : KeyShape) (table physicalName : String) :
    Except Error QueryRequest :=
  match query.condition? shape with
  | none => .error (.wrongKey table [shape.hash] [shape.hash, "sort key condition"])
  | some condition =>
    let (whole, projection) := query.expressions condition
    .ok
      { table := physicalName
        index := query.index
        condition := whole.text
        projection := projection.map (·.text)
        names := whole.names
        values := whole.values
        start := query.start
        limit := query.limit
        forward := query.forward }

end Query

end ItemTable
