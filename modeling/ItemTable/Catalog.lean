import ItemTable.Config
import ItemTable.Json.Reader
import ItemTable.Table

set_option autoImplicit false

/-! # Catalogs of tables

A catalog opens tables by name. The first opening of a table reads the schema file that is named
after it; the table is then kept, whatever becomes of the file. A failed opening keeps nothing. -/

namespace ItemTable

/-- The deepest nesting that a schema file may have. -/
def nestingLimit : Nat := 127

/-- The texts of files by path; `none` if a file cannot be read. -/
abbrev Files := String → Option String

namespace Schema

/-- The schema of a document, for a table. -/
def ofDocument (table : String) (document : Json) : Except Error Schema :=
  match ofDocument? document with
  | some schema => .ok schema
  | none => .error (.schema table .notASchema)

/-- The schema in a file, for the table that the file is named after. -/
def ofFile (files : Files) (path : String) : Except Error Schema :=
  match files path with
  | none => .error (.schema (fileStem path) .unreadable)
  | some text =>
    match Json.read? nestingLimit text with
    | none => .error (.schema (fileStem path) .malformed)
    | some document => ofDocument (fileStem path) document

end Schema

/-- The tables that have been opened, in the order of their first opening. -/
structure Catalog where
  config : Config
  tables : Record Table

namespace Catalog

/-- A catalog in which no table has been opened. -/
def ofConfig (config : Config) : Catalog := ⟨config, []⟩

/-- Builds the table of a name from its file. -/
def build (catalog : Catalog) (files : Files) (name : String) : Except Error Table := do
  let schema ← Schema.ofFile files (catalog.config.schemaPath name)
  Table.ofRules name (catalog.config.physicalName name) (.ofSchema schema)

/-- The place of a name among the tables that have been opened. -/
def placeOf (catalog : Catalog) (name : String) : Nat := catalog.tables.names.idxOf name

/-- Opens a table, and gives the catalog after that. -/
def openTable (catalog : Catalog) (files : Files) (name : String) : Except Error Table × Catalog :=
  match catalog.tables.get? name with
  | some table => (.ok table, catalog)
  | none =>
    match catalog.build files name with
    | .ok table => (.ok table, { catalog with tables := catalog.tables ++ [(name, table)] })
    | .error error => (.error error, catalog)

end Catalog

end ItemTable
