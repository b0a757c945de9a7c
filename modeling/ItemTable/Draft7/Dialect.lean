import ItemTable.Json

set_option autoImplicit false

/-! # Dialects

A part of a schema may name the dialect in which it is written. Earlier drafts lack some keywords;
of the drafts after 7 a schema of draft 7 understands references alone. -/

namespace ItemTable

namespace Draft7

/-- The dialect of a part of a schema. -/
inductive Dialect
  | four
  | six
  | seven
  | later
  deriving DecidableEq, Repr

namespace Dialect

/-- What the names of known dialects start with. -/
def families : List String :=
  ["https://json-schema.org/draft/2020-12/", "https://json-schema.org/draft/2019-09/",
    "http://json-schema.org/draft-07/", "http://json-schema.org/draft-06/",
    "http://json-schema.org/draft-04/"]

/-- Whether a text starts as the name of a known dialect. -/
def isKnown (name : String) : Bool :=
  families.any fun family => family.toList.isPrefixOf name.toList

/-- The dialect of a name; number signs at its end do not count. -/
def ofName (name : String) : Dialect :=
  match String.ofList (name.toList.reverse.dropWhile (· = '#')).reverse with
  | "http://json-schema.org/draft-04/schema" => .four
  | "http://json-schema.org/draft-06/schema" => .six
  | "http://json-schema.org/draft-07/schema" => .seven
  | _ => .later

/-- The dialect of a schema with these members inside one of a dialect. -/
def inside (outer : Dialect) (members : Record Json) : Dialect :=
  match members.get? "$schema" with
  | some (.string name) => ofName name
  | _ => outer

/-- The address that a schema with these members names for itself. Up to draft 7 there is none next
to a reference, and one that starts with a number sign names a place and no address. -/
def address? (dialect : Dialect) (members : Record Json) : Option String :=
  let named (keyword : String) : Option String := (members.get? keyword).bind Json.string?
  let outright (name : String) : Bool := name.toList.head? != some '#'
  match dialect with
  | .later => named "$id"
  | .four => if members.contains "$ref" then none else (named "id").filter outright
  | _ => if members.contains "$ref" then none else (named "$id").filter outright

/-- Whether a keyword means something in a dialect. -/
def knows (dialect : Dialect) (keyword : String) : Bool :=
  match dialect with
  | .four =>
    ! ["const", "contains", "propertyNames", "if", "then", "else", "exclusiveMinimum",
      "exclusiveMaximum", "contentEncoding", "contentMediaType"].contains keyword
  | .six => ! ["if", "then", "else"].contains keyword
  | .seven => true
  | .later => false

end Dialect

end Draft7

end ItemTable
