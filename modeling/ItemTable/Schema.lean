import ItemTable.Draft7.Reference
import ItemTable.Draft7.Validate
import ItemTable.Json.Pointer
import ItemTable.Path
import ItemTable.Schema.Lowering

set_option autoImplicit false

/-! # Table schemas

One document declares the items that a table may hold, its key attributes and its secondary indexes.
A `Schema` keeps the document as it is and lowered twice, with and without required names, and the
library that checks rely on. -/

namespace ItemTable

/-- A table's schema. -/
structure Schema where
  document : Json
  /-- What whole items are checked against. -/
  full : Json
  /-- What parts of items are checked against. -/
  relaxed : Json
  library : Draft7.Library

namespace Schema

/-- A document with its lowered copies. -/
def lowered (library : Draft7.Library) (document : Json) : Schema where
  document := document
  full := document.lower true
  relaxed := document.lower false
  library := library

/-- The schema of a document, if the library accepts the lowered copies. -/
def build? (library : Draft7.Library) (document : Json) : Option Schema :=
  let schema := lowered library document
  if library.accepts schema.full && library.accepts schema.relaxed then some schema else none

/-- The schema of a document whose references are pointers into it. -/
def ofDocument? (document : Json) : Option Schema := build? .pointers document

/-- The title of a document. -/
def title (document : Json) : String := ((document.member? "title").bind Json.string?).getD ""

/-- The part of a document that a reference names, its pointer taken literally. -/
def target? (root : Json) (reference : String) : Option Json :=
  match reference.toList with
  | '#' :: pointer => root.pointer? pointer
  | _ => none

/-- The reference of a node. -/
def reference? (node : Json) : Option String := (node.member? "$ref").bind Json.string?

/-- The longest chain of references that is followed. -/
def chainLimit : Nat := 32

/-- Follows references until a node without one, looking at `fuel` nodes at most. -/
def resolveWithin (root : Json) : Nat → Json → Option Json
  | 0, _ => none
  | fuel + 1, node =>
    match reference? node with
    | none => some node
    | some reference => (target? root reference).bind (resolveWithin root fuel)

/-- The node that a node stands for. -/
def resolve? (schema : Schema) (node : Json) : Option Json :=
  resolveWithin schema.document chainLimit node

/-- The node of a member: its own, or the one for members without their own. -/
def memberNode? (node : Json) (name : String) : Option Json :=
  match (node.member? "properties").bind (·.member? name) with
  | some child => some child
  | none =>
    match node.member? "additionalProperties" with
    | some (.object members) => some (.object members)
    | _ => none

/-- The node one step below a node. -/
def child? (node : Json) : Step → Option Json
  | .key name => memberNode? node name
  | .position _ => node.member? "items"

/-- The node that a path leads to from a resolved node. -/
def descend? (schema : Schema) : Json → Path → Option Json
  | node, [] => some node
  | node, step :: rest =>
    ((child? node step).bind schema.resolve?).bind fun next => schema.descend? next rest

/-- The node of the values at a path. -/
def nodeAt? (schema : Schema) (path : Path) : Option Json :=
  (schema.resolve? schema.document).bind fun root => schema.descend? root path

/-- The names that the object at a path has to have. -/
def requiredAt (schema : Schema) (path : Path) : List String :=
  (((schema.nodeAt? path).bind (·.member? "required")).getD .null).stringElements

/-- The attribute of the first key element with a role. -/
def attributeOfRole? (elements : List Json) (role : String) : Option String :=
  elements.findSome? fun element =>
    if (element.member? "KeyType").bind Json.string? = some role then
      (element.member? "AttributeName").bind Json.string?
    else none

/-- The attributes of a declared key, the partition's first. -/
def keyNames (declared : Json) : List String :=
  let elements := declared.array?.getD []
  (attributeOfRole? elements "HASH").toList ++ (attributeOfRole? elements "RANGE").toList

/-- The declarations about the table itself. -/
def infrastructure? (schema : Schema) : Option (Record Json) :=
  (schema.document.member? "$infrastructure").bind Json.object?

/-- The names of the key attributes. -/
def primaryKey (schema : Schema) : List String :=
  match schema.document.member? "default" with
  | some (.array names) => Json.stringElements (.array names)
  | _ => keyNames ((schema.infrastructure?.bind (·.get? "KeySchema")).getD .null)

/-- The name of a declared index and the names of its key attributes. -/
def indexEntry? (declared : Json) : Option (String × List String) :=
  match (declared.member? "IndexName").bind Json.string?, declared.member? "KeySchema" with
  | some name, some key => some (name, keyNames key)
  | _, _ => none

/-- The secondary indexes, the global ones first. -/
def indexes (schema : Schema) : Record (List String) :=
  let declared (kind : String) : List Json :=
    ((schema.infrastructure?.bind (·.get? kind)).bind Json.array?).getD []
  Record.ofEntries
    ((declared "GlobalSecondaryIndexes" ++ declared "LocalSecondaryIndexes").filterMap indexEntry?)

end Schema

end ItemTable
