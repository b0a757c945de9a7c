import ItemTable.Expression
import ItemTable.StoreValue.Convert
import ItemTable.Tree

set_option autoImplicit false

/-! # Update expressions

An update expression has one clause for each mode it uses, and a clause one action for each leaf.
All clauses share their placeholders: names in the order in which the leaves show them, values in
the order of the actions that carry one. -/

namespace ItemTable

/-- What an update does at each of its paths. -/
inductive UpdateMode
  /-- Writes a value, or extends a list by one. -/
  | set
  /-- Adds elements to a set. -/
  | add
  /-- Takes an attribute or a list's entry away. -/
  | remove
  /-- Takes elements out of a set. -/
  | delete
  deriving DecidableEq, Repr

/-- The word that opens the clause of a mode. -/
def UpdateMode.keyword : UpdateMode → String
  | .set => "set "
  | .add => "add "
  | .remove => "remove "
  | .delete => "delete "

/-- One action of a clause, with the stored form of its value. -/
structure Action where
  mode : UpdateMode
  path : Path
  append : Bool
  value : Option StoreValue

namespace Action

/-- The stored form of an element set: the schema's form if that is a set, a set of the elements
otherwise. -/
def setValue (store : Path → Json → Except ConversionError StoreValue) (leaf : Leaf) :
    Except ConversionError StoreValue := do
  let stored ← store leaf.path leaf.value
  if stored.isSet then .ok stored else StoreValue.setOfJson leaf.value

/-- The action of a leaf; `store` gives values their stored form. -/
def ofLeaf (store : Path → Json → Except ConversionError StoreValue) (mode : UpdateMode)
    (leaf : Leaf) : Except ConversionError Action :=
  match mode with
  | .set => (store leaf.path leaf.value).map fun v => ⟨.set, leaf.path, leaf.append, some v⟩
  | .add => (setValue store leaf).map fun v => ⟨.add, leaf.path, false, some v⟩
  | .delete => (setValue store leaf).map fun v => ⟨.delete, leaf.path, false, some v⟩
  | .remove => .ok ⟨.remove, leaf.path, false, none⟩

/-- The action's text, with the placeholder of its value. -/
def text (names : Names) (value : String) (action : Action) : String :=
  let reference := names.reference action.path
  match action.mode with
  | .set =>
    if action.append then reference ++ " = list_append(" ++ reference ++ ", " ++ value ++ ")"
    else reference ++ " = " ++ value
  | .add => reference ++ " " ++ value
  | .delete => reference ++ " " ++ value
  | .remove => reference

end Action

/-- Actions with the number of values before each. -/
def numberActions : Nat → List Action → List (Nat × Action)
  | _, [] => []
  | n, a :: rest => (n, a) :: numberActions (if a.value.isSome then n + 1 else n) rest

/-- The number of values that actions carry. -/
def countValues (actions : List Action) : Nat := (actions.filterMap (·.value)).length

/-- The clauses of an update that is ready to be sent. -/
structure UpdatePlan where
  clauses : List (UpdateMode × List Action)

namespace UpdatePlan

/-- The actions of a clause's leaves. -/
def compileClause (store : Path → Json → Except ConversionError StoreValue)
    (group : UpdateMode × List Leaf) : Except ConversionError (UpdateMode × List Action) :=
  (group.2.mapM (Action.ofLeaf store group.1)).map fun actions => (group.1, actions)

/-- The plan of clauses; one without leaves is left out. -/
def compile (store : Path → Json → Except ConversionError StoreValue)
    (groups : List (UpdateMode × List Leaf)) : Except ConversionError UpdatePlan :=
  let used := groups.filter fun g => !g.2.isEmpty
  (used.mapM (compileClause store)).map (⟨·⟩)

/-- All actions, in order. -/
def actions (plan : UpdatePlan) : List Action := plan.clauses.flatMap (·.2)

/-- The paths that the plan touches, in order. -/
def paths (plan : UpdatePlan) : List Path := plan.actions.map (·.path)

/-- The names on those paths. -/
def names (plan : UpdatePlan) : Names := Names.empty.seePaths plan.paths

/-- The values, each under its placeholder. -/
def values (plan : UpdatePlan) : Item :=
  (plan.actions.filterMap (·.value)).mapIdx fun i v => (Placeholder.value i, v)

/-- The text of a clause, its values numbered from `first`. -/
def clauseText (names : Names) (first : Nat) (mode : UpdateMode) (actions : List Action) : String :=
  mode.keyword ++ ", ".intercalate
    ((numberActions first actions).map fun (n, a) => a.text names (Placeholder.value n))

/-- The texts of clauses, their values numbered from `first`. -/
def clauseTexts (names : Names) : Nat → List (UpdateMode × List Action) → List String
  | _, [] => []
  | first, (mode, actions) :: rest =>
    clauseText names first mode actions :: clauseTexts names (first + countValues actions) rest

/-- The plan's expression text. -/
def text (plan : UpdatePlan) : String :=
  " ".intercalate (clauseTexts plan.names 0 plan.clauses)

end UpdatePlan

end ItemTable
