import ItemTable.Path
import ItemTable.Store.Request
import ItemTable.StoreValue.Convert

set_option autoImplicit false

/-! # What a write hands back

A caller asks for a whole item, for the values that a write touches, or for nothing. Touched values
come in the order of the caller's paths, whatever the request was that succeeded. -/

namespace ItemTable

/-- What a write hands back. -/
inductive ReturnShape
  | none
  | allOld
  | allNew
  /-- The touched values before the write. -/
  | updatedOld
  /-- The touched values after the write. -/
  | updatedNew
  /-- The values that were taken away. -/
  | deleted
  deriving DecidableEq, Repr, Inhabited

namespace ReturnShape

/-- What the store is asked to return. Values that were taken away are cut out of the whole old
item. -/
def requested : ReturnShape → ReturnedAttributes
  | .none => .none
  | .allOld | .deleted => .allOld
  | .allNew => .allNew
  | .updatedOld => .updatedOld
  | .updatedNew => .updatedNew

/-- Whether the item after the write is wanted. -/
def wantsNew : ReturnShape → Bool
  | .allNew | .updatedNew => true
  | _ => false

/-- The values at the ends of paths, `null` where there is none: bare if there is one path, an array
otherwise. -/
def touched (item : Json) (paths : List Path) : Json :=
  match paths with
  | [path] => (item.walk? path).getD .null
  | paths => .array (paths.map fun path => (item.walk? path).getD .null)

/-- What the caller gets of the attributes that the store returns. -/
def decode (shape : ReturnShape) (attributes : Option Item) (paths : List Path) :
    Except ConversionError (Option Json) :=
  match shape with
  | .none => .ok Option.none
  | .allOld | .allNew =>
    (StoreValue.membersOfItem (attributes.getD [])).map fun item => some (.object item)
  | .updatedOld | .updatedNew | .deleted =>
    (StoreValue.membersOfItem (attributes.getD [])).map fun item =>
      some (touched (.object item) paths)

end ReturnShape

end ItemTable
