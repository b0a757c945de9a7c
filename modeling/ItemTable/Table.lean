import ItemTable.Condition
import ItemTable.Key
import ItemTable.Schema.Rules
import ItemTable.Store.Program

set_option autoImplicit false

/-! # Tables

A table has a name for callers, a name in the store, a key shape and rules. Here are the checks that
run before a request is made; the operations are in the modules below. -/

namespace ItemTable

/-- A table. -/
structure Table where
  name : String
  /-- The table's name in the store. -/
  physicalName : String
  shape : KeyShape
  rules : Rules

namespace Table

/-- The table with these rules; their primary key has to have one or two attributes. -/
def ofRules (name physicalName : String) (rules : Rules) : Except Error Table :=
  match KeyShape.ofNames? rules.primaryKey with
  | some shape => .ok ⟨name, physicalName, shape, rules⟩
  | none => .error (.schema name (.keyNames rules.primaryKey))

/-- The key shapes of the secondary indexes. -/
def indexShapes (table : Table) : Record KeyShape :=
  Record.ofEntries (table.rules.indexes.filterMap fun (name, names) =>
    (KeyShape.ofNames? names).map fun shape => (name, shape))

/-- The key shape of a secondary index. -/
def indexShape (table : Table) (index : String) : Except Error KeyShape :=
  match table.indexShapes.get? index with
  | some shape => .ok shape
  | none => .error (.unknownIndex table.name index)

/-- The key of a shape that a caller means. -/
def keyOf (table : Table) (shape : KeyShape) (input : KeyInput) : Except Error Key :=
  match shape.normalize input with
  | .ok key => .ok key
  | .error (.missing missing) => .error (.missingKey table.name shape.names missing)
  | .error (.wrong given) => .error (.wrongKey table.name shape.names given)

/-- The key of an item of the table that a caller means. -/
def key (table : Table) (input : KeyInput) : Except Error Key := table.keyOf table.shape input

/-- The error for a key without an item. -/
def notFound (table : Table) (key : Key) : Error := .notFound table.name key.text

/-- Refuses what has a finding. -/
def refuse (table : Table) (mode : ValidationMode) : Option Finding → Except Error Unit
  | none => .ok ()
  | some finding => .error (.validation table.name mode finding)

/-- Checks a whole item. -/
def checkItem (table : Table) (item : Record Json) : Except Error Unit :=
  table.refuse .put (table.rules.validate (.object item))

/-- Checks the data that are merged into an item: they may not hold key attributes. -/
def checkData (table : Table) (data : Record Json) : Except Error Unit :=
  match table.shape.names.filter data.contains with
  | [] => table.refuse .update (table.rules.validatePart (.object data))
  | given => .error (.wrongKey table.name table.shape.names given)

/-- Whether the object at a path has to have an attribute of this name. -/
def requires (table : Table) (parent : Path) (name : String) : Bool :=
  (parent.isEmpty && table.shape.names.contains name)
    || (table.rules.requiredAt parent).contains name

/-- What is wrong with taking the value at a path away, given the paths that go after it. -/
def removalFinding? (table : Table) (path : Path) (others : List Path) : Option Finding :=
  match others.find? path.conflicts with
  | some other => some
    { kind := .other
      message := "paths " ++ path.text ++ " and " ++ other.text ++ " overlap"
      path := []
      enumValues := [] }
  | none =>
    match path.lastKey? with
    | none => none
    | some name =>
      if table.requires path.parent name then some
        { kind := .required
          message := name ++ " is a required attribute in " ++ path.parent.text
          path := path.map Step.word
          enumValues := [] }
      else none

/-- Checks paths whose values are taken away. -/
def checkRemoval (table : Table) : List Path → Except Error Unit
  | [] => .ok ()
  | path :: rest =>
    match table.refuse .remove (table.removalFinding? path rest) with
    | .ok () => table.checkRemoval rest
    | .error e => .error e

end Table

end ItemTable
