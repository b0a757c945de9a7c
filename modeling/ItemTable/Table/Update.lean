import ItemTable.Write

set_option autoImplicit false

/-! # Changing items

Updates merge a tree of data into an item: they set attributes, append to lists, or change sets.
Removals take away what paths lead to. -/

namespace ItemTable

/-- How an update treats what it finds. -/
structure UpdateOptions where
  /-- Create the item of the key and the data if it is missing. -/
  createItem : Bool
  /-- Let `updateAttributes` and `appendToLists` write what is not there yet. -/
  setNew : Bool
  /-- Let `addAttributes` write over what is there. -/
  overwrite : Bool
  condition : Option Condition
  returns : ReturnShape

/-- How a removal treats what it finds. -/
structure RemoveOptions where
  condition : Option Condition
  returns : ReturnShape

namespace Table

/-- Merges data into an item. -/
def update (table : Table) (input : KeyInput) (mode : UpdateMode) (data : Record Json)
    (append : Bool) (guards : Guards) (options : UpdateOptions) : Program (Option Json) := do
  let key ← Program.ofExcept (table.key input)
  Program.ofExcept (table.checkData data)
  let leaves := Leaf.ofTree append (Tree.flatten data)
  if leaves.isEmpty then Program.fail (.emptyUpdate table.name)
  else
    Write.run
      { table := table
        key := key
        mode := mode
        data := data
        leaves := leaves
        guards := guards
        condition := options.condition
        returns := options.returns }

/-- The guards of an update that expects what it writes to be there. -/
def presentGuards (options : UpdateOptions) : Guards :=
  ⟨!options.setNew, false, options.createItem⟩

/-- The guards of an update that expects what it writes to be missing. -/
def missingGuards (options : UpdateOptions) : Guards :=
  ⟨false, !options.overwrite, options.createItem⟩

/-- Sets attributes that are there. -/
def updateAttributes (table : Table) (input : KeyInput) (data : Record Json)
    (options : UpdateOptions) : Program (Option Json) :=
  table.update input .set data false (presentGuards options) options

/-- Sets attributes that are not there yet. -/
def addAttributes (table : Table) (input : KeyInput) (data : Record Json)
    (options : UpdateOptions) : Program (Option Json) :=
  table.update input .set data false (missingGuards options) options

/-- Appends lists to lists. -/
def appendToLists (table : Table) (input : KeyInput) (data : Record Json)
    (options : UpdateOptions) : Program (Option Json) :=
  table.update input .set data true (presentGuards options) options

/-- Adds elements to sets. -/
def addToSets (table : Table) (input : KeyInput) (data : Record Json)
    (options : UpdateOptions) : Program (Option Json) :=
  table.update input .add data false .free options

/-- Takes elements out of sets. -/
def removeFromSets (table : Table) (input : KeyInput) (data : Record Json)
    (options : UpdateOptions) : Program (Option Json) :=
  table.update input .delete data false .free options

/-- Takes away what paths lead to. -/
def removeAttributes (table : Table) (input : KeyInput) (paths : List Path)
    (options : RemoveOptions) : Program (Option Json) := do
  let key ← Program.ofExcept (table.key input)
  if paths.isEmpty then Program.fail (.emptyUpdate table.name)
  else
    Program.ofExcept (table.checkRemoval paths)
    Write.run
      { table := table
        key := key
        mode := .remove
        data := []
        leaves := paths.map fun path => ⟨path, .null, false⟩
        guards := .free
        condition := options.condition
        returns := options.returns }

/-- Takes an entry out of a list and gives it back. -/
def removeEntry (table : Table) (input : KeyInput) (list : Path) (position : Nat)
    (condition : Option Condition) : Program Json := do
  let key ← Program.ofExcept (table.key input)
  let entry := list ++ [.position position]
  let old ← table.removeAttributes (.mapping key.members) [entry] ⟨condition, .allOld⟩
  match old.bind (·.walk? entry) with
  | some value => pure value
  | none =>
    Program.fail (.noPosition table.name key.text list.text position)

end Table

end ItemTable
