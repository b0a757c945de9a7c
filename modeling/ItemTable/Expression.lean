import ItemTable.Placeholder
import ItemTable.StoreValue

set_option autoImplicit false

/-! # Expressions

An expression is a text for the store together with the names and values that its placeholders stand
for. A projection is the expression that lists the paths to return. -/

namespace ItemTable

/-- A text for the store and the meaning of its placeholders. -/
structure Expression where
  text : String
  names : Record String
  values : Item
  deriving Inhabited

namespace Expression

/-- The text alone. -/
def ofText (text : String) : Expression := ⟨text, [], []⟩

/-- Two texts with `operator` between them; an empty one is left out. -/
def joinTexts (operator left right : String) : String :=
  if left = "" then right
  else if right = "" then left
  else left ++ operator ++ right

/-- Both expressions, their texts joined by `operator`. -/
def join (operator : String) (left right : Expression) : Expression where
  text := joinTexts operator left.text right.text
  names := left.names.merge right.names
  values := left.values.merge right.values

/-- The expression that lists the paths of a projection. -/
def projection (paths : List Path) : Expression :=
  let names := Names.empty.seePaths paths
  { text := ", ".intercalate (paths.map names.reference), names := names.table, values := [] }

end Expression

end ItemTable
