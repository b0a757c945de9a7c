import ItemTable.Path

set_option autoImplicit false

/-! # Trees and leaves

A tree is the record of an object's members. `flatten` lists its leaves, depth first, and
`unflatten` builds a tree of them again by `insert`. A leaf is any value that is not an object with
members.

`Leaf.cut` compares wanted paths with a stored item: a path that breaks off inside the item is cut
right after the first missing step, and its new leaf carries everything below that step. -/

namespace ItemTable

namespace Tree

mutual
/-- The leaves of the value at a path. -/
def leavesOf (path : Path) : Json → List (Path × Json)
  | .object (m :: ms) => leavesOfMembers path (m :: ms)
  | leaf => [(path, leaf)]

/-- The leaves below the members of the object at a path. -/
def leavesOfMembers (path : Path) : List (String × Json) → List (Path × Json)
  | [] => []
  | (name, value) :: rest => leavesOf (path ++ [.key name]) value ++ leavesOfMembers path rest
end

/-- The leaves of a tree, depth first, each with its path. -/
def flatten (tree : Record Json) : List (Path × Json) := leavesOfMembers [] tree

/-- The members of the object under a name; there are none if something else stands there. -/
def branch (tree : Record Json) (name : String) : Record Json :=
  ((tree.get? name).bind Json.object?).getD []

/-- Puts a value at the end of a path. Keys on the way become objects where they are none; at a
position the way ends, and nothing is put. -/
def insert (tree : Record Json) : Path → Json → Record Json
  | [], _ => tree
  | .position _ :: _, _ => tree
  | [.key name], value => Record.insert tree name value
  | .key name :: step :: rest, value =>
    Record.insert tree name (.object (insert (branch tree name) (step :: rest) value))

/-- The tree of leaves put in one after the other. -/
def unflatten (leaves : List (Path × Json)) : Record Json :=
  leaves.foldl (fun tree leaf => insert tree leaf.1 leaf.2) []

end Tree

/-- One leaf of an update: where it goes, its value, and whether it extends the list there. -/
structure Leaf where
  path : Path
  value : Json
  append : Bool
  deriving Inhabited

namespace Leaf

/-- The leaves of paths and values, all with the same way of writing. -/
def ofTree (append : Bool) (leaves : List (Path × Json)) : List Leaf :=
  leaves.map fun (path, value) => ⟨path, value, append⟩

/-- The shortest beginning of a path that leads out of the value; `none` if the whole path is
there. -/
def firstMissing? : Json → Path → Option Path
  | _, [] => none
  | value, step :: rest =>
    match value.child? step with
    | none => some [step]
    | some part => (firstMissing? part rest).map (step :: ·)

/-- The leaf that writes a wanted one into an item, with the data the wanted leaves come from. -/
def cutOne (item data : Json) (wanted : Leaf) : Leaf :=
  match firstMissing? item wanted.path with
  | some path => ⟨path, (data.walk? path).getD .null, false⟩
  | none => ⟨wanted.path, (data.walk? wanted.path).getD .null, wanted.append⟩

/-- The leaves that write the wanted ones into an item, one for each path. -/
def cut (item data : Json) (wanted : List Leaf) : List Leaf :=
  wanted.foldl (fun acc leaf =>
    let new := cutOne item data leaf
    if acc.any fun l => l.path == new.path then acc else acc ++ [new]) []

end Leaf

end ItemTable
