import ItemTable.Draft7.Dialect
import ItemTable.Draft7.Violation

set_option autoImplicit false

/-! # What checks rely on

Some of what a schema asks cannot be told from the schema alone: which formats and kinds of content
there are, and which documents references lead to. A `Library` answers that, and says which
documents checks can be made by. A reference is read from the address of the schema that holds it,
so a check keeps track of where it is: a `Scope`. -/

namespace ItemTable

namespace Draft7

/-- Where a part of a schema stands. -/
structure Scope where
  /-- The dialect in which it is written. -/
  dialect : Dialect
  /-- The address that its references start from. -/
  base : String
  deriving DecidableEq, Repr

/-- What checks rely on besides the keywords. -/
structure Library where
  /-- Whether a text has the format of a name. Each text has a format that the dialect lacks. -/
  hasFormat : Dialect → String → String → Bool
  /-- What is wrong with a text, given the names of its encoding and of its media type. -/
  fault? : Option String → Option String → String → Option ContentFault
  /-- The address that a name stands for, seen from an address. -/
  join : String → String → String
  /-- What a reference in a document leads to from an address: a part of the document, found by its
  place, by its address or by its name, or one of another document. -/
  resolve? : Json → String → String → Option (Json × Scope)
  /-- Whether checks can be made by a document. -/
  accepts : Json → Bool
  /-- How many nested steps a check has room for. -/
  room : Nat

namespace Library

/-- The address of a document that names none. -/
def nowhere : String := "json-schema:///"

/-- The address of a schema with these members at an address. -/
def address (library : Library) (outer : String) (dialect : Dialect) (members : Record Json) :
    String :=
  match dialect.address? members with
  | some name => library.join outer name
  | none => outer

/-- Where a schema inside another one stands. -/
def within (library : Library) (outer : Scope) : Json → Scope
  | .object members =>
    let dialect := outer.dialect.inside members
    ⟨dialect, library.address outer.base dialect members⟩
  | _ => outer

/-- Where a document stands: it is written in draft 7, whatever it says. -/
def outermost (library : Library) : Json → Scope
  | .object members => ⟨.seven, library.address nowhere .seven members⟩
  | _ => ⟨.seven, nowhere⟩

end Library

end Draft7

end ItemTable
