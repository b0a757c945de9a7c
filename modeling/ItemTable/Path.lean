import ItemTable.Json

set_option autoImplicit false

/-! # Attribute paths

A path leads from the root of an item to a value inside it: a key steps into a map, a position into
a list. The empty path is the item itself. -/

namespace ItemTable

/-- One step of a path. -/
inductive Step
  | key (name : String)
  | position (index : Nat)
  deriving DecidableEq, Repr

/-- The steps from an item's root to a value. -/
abbrev Path := List Step

namespace Step

/-- The step as a bare word. -/
def word : Step → String
  | .key name => name
  | .position index => Nat.repr index

/-- The name of a key step. -/
def key? : Step → Option String
  | .key name => some name
  | .position _ => none

/-- Whether the step is a key. -/
def isKey : Step → Bool
  | .key _ => true
  | .position _ => false

end Step

namespace Path

/-- The path of keys. -/
def ofKeys (names : List String) : Path := names.map .key

/-- A step as it stands in a path's text: a key is set off by a point unless it is the first step.
-/
def stepText (isFirst : Bool) : Step → String
  | .key name => if isFirst then name else "." ++ name
  | .position index => "[" ++ Nat.repr index ++ "]"

/-- The path as people write it, `a.b[2]`. -/
def text : Path → String
  | [] => ""
  | step :: rest => stepText true step ++ "".intercalate (rest.map (stepText false))

/-- The path without its last step. -/
def parent (path : Path) : Path := path.dropLast

/-- The last step, if it is a key. -/
def lastKey? (path : Path) : Option String := path.getLast?.bind Step.key?

/-- Whether one of the paths leads through the end of the other. -/
def conflicts (p q : Path) : Bool := p.isPrefixOf q || q.isPrefixOf p

/-- The names on the path. -/
def keys (path : Path) : List String := path.filterMap Step.key?

end Path

namespace Json

/-- The part of a document one step down. -/
def child? (value : Json) : Step → Option Json
  | .key name => value.member? name
  | .position index => value.element? index

/-- The part of a document at the end of a path. -/
def walk? : Json → Path → Option Json
  | value, [] => some value
  | value, step :: rest => (value.child? step).bind fun part => part.walk? rest

end Json

end ItemTable
