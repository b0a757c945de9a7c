import ItemTable.ReturnShape
import ItemTable.Table.Items
import ItemTable.Update

set_option autoImplicit false

/-! # Writes

A write is one conditional update of an item. Its request guards the item's existence and, as the
caller asks, that the paths it touches are there or are missing.

A failure leads to at most one of each of these: an update below a map that is missing is made anew,
with the map written whole; a failed condition is explained by reading the item; an item that is
missing is created. -/

namespace ItemTable

/-- What has to hold of an item besides the caller's condition. -/
structure Guards where
  /-- The touched paths have to be there. -/
  requirePresent : Bool
  /-- The touched paths have to be missing. -/
  requireMissing : Bool
  /-- A missing item is created of the key and the data. -/
  createIfMissing : Bool
  deriving DecidableEq, Repr

/-- No guards. -/
def Guards.free : Guards := ⟨false, false, false⟩

/-- One conditional update of an item. -/
structure Write where
  table : Table
  key : Key
  mode : UpdateMode
  /-- The data that the leaves come from; none for removals. -/
  data : Record Json
  leaves : List Leaf
  guards : Guards
  condition : Option Condition
  returns : ReturnShape

namespace Write

/-- The caller's paths. -/
def paths (write : Write) : List Path := write.leaves.map (·.path)

/-- The caller's condition, if it tests anything. -/
def direct (write : Write) : Option Expression := write.condition.bind Condition.compile?

/-- The plan of clauses by the rules of the table. -/
def plan (write : Write) (groups : List (UpdateMode × List Leaf)) :
    Except ConversionError UpdatePlan :=
  UpdatePlan.compile write.table.rules.storeValue groups

/-- The names on a plan's paths and of the key attributes. -/
def names (write : Write) (plan : UpdatePlan) : Names := plan.names.seePaths write.table.keyPaths

/-- What has to hold of the item for a plan. -/
def condition? (write : Write) (plan : UpdatePlan) : Option Expression :=
  Condition.guarded
    (write.table.keyPaths ++ if write.guards.requirePresent then plan.paths else [])
    (if write.guards.requireMissing then plan.paths else [])
    (write.names plan) write.direct

/-- The request of a plan. -/
def request (write : Write) (plan : UpdatePlan) : UpdateRequest :=
  let condition := write.condition? plan
  { key := write.key.item
    update := plan.text
    terms :=
      { table := write.table.physicalName
        condition := condition.map (·.text)
        names := (write.names plan).table.merge ((condition.map (·.names)).getD [])
        values := plan.values.merge ((condition.map (·.values)).getD [])
        returns := some write.returns.requested } }

/-- The error for an item that is missing. -/
def notFound (write : Write) : Error := write.table.notFound write.key

/-- The error for a condition that did not hold. -/
def conditionFailed (write : Write) : Error :=
  .conditionFailed write.table.name write.key.text

/-- The error for paths that had to be there. -/
def pathsMissing (write : Write) (paths : List Path) : Error :=
  .attributeMissing write.table.name write.key.text (paths.map Path.text)

/-- The guard that an item violates, or else the caller's condition. -/
def violation (write : Write) (item : Json) (guarded : List Path) : Error :=
  let present := guarded.filter fun path => (item.walk? path).isSome
  let missing := guarded.filter fun path => (item.walk? path).isNone
  if write.guards.requireMissing && !present.isEmpty then
    .attributeExists write.table.name write.key.text (present.map Path.text)
  else if write.guards.requirePresent && !missing.isEmpty then write.pathsMissing missing
  else write.conditionFailed

/-- What the caller gets of returned attributes. -/
def finish (write : Write) (attributes : Option Item) : Program (Option Json) :=
  Program.convert (write.returns.decode attributes write.paths)

/-- The item as it is stored now. -/
def read (write : Write) : Program (Option (Record Json)) := do
  match ← Program.ask (.get write.table.physicalName write.key.item) with
  | none => pure none
  | some item => some <$> Program.convert (StoreValue.membersOfItem item)

/-- The item that is created: the key, and the data that are no part of it. -/
def newItem (write : Write) : Record Json :=
  write.key.members ++ write.data.filter fun entry => !write.key.members.contains entry.1

/-- Creates the item. -/
def create (write : Write) : Program (Option Json) := do
  let stored ← write.table.insert write.newItem false
  if write.returns.wantsNew then
    Program.convert (write.returns.decode (some stored) write.paths)
  else pure none

/-- Goes on after the item was found missing. -/
def onMissingItem (write : Write) : Program (Option Json) :=
  if write.guards.createIfMissing && write.mode == .set then write.create
  else Program.fail write.notFound

/-- Explains a failed condition of a request that guarded these paths. -/
def explain (write : Write) (guarded : List Path) : Program (Option Json) :=
  if write.direct.isSome then Program.fail write.conditionFailed
  else do
    match ← write.read with
    | none => write.onMissingItem
    | some item => Program.fail (write.violation (.object item) guarded)

/-- The clauses that write the data into an item in which maps are missing. Paths that were cut are
set whole; the others keep their clause. -/
def recoveryGroups (write : Write) (item : Record Json) : List (UpdateMode × List Leaf) :=
  let leaves := Leaf.cut (.object item) (.object write.data) write.leaves
  let isKept (leaf : Leaf) : Bool := write.mode != .set && write.paths.contains leaf.path
  [(.set, leaves.filter fun leaf => !isKept leaf), (write.mode, leaves.filter isKept)]

/-- Makes the request anew, after the first one met a missing map. -/
def retry (write : Write) (plan : UpdatePlan) : Program (Option Json) := do
  match ← Program.attempt (.update (write.request plan)) with
  | .ok attributes => write.finish attributes
  | .error (.conditionFailed _) => write.explain plan.paths
  | .error error => Program.fail (.store error)

/-- Reads the item and writes the maps that it lacks. -/
def recover (write : Write) : Program (Option Json) := do
  match ← write.read with
  | none => write.onMissingItem
  | some item =>
    let plan ← Program.convert (write.plan (write.recoveryGroups item))
    write.retry plan

/-- Whether missing maps may be created. -/
def mayRecover (write : Write) : Bool :=
  !write.guards.requirePresent && (write.mode == .set || write.mode == .add)

/-- Makes the request of a plan. -/
def attempt (write : Write) (plan : UpdatePlan) : Program (Option Json) := do
  match ← Program.attempt (.update (write.request plan)) with
  | .ok attributes => write.finish attributes
  | .error (.conditionFailed _) => write.explain plan.paths
  | .error error =>
    if !error.isMissingPath then Program.fail (.store error)
    else if write.mayRecover then write.recover
    else Program.fail (write.pathsMissing plan.paths)

/-- The whole write. -/
def run (write : Write) : Program (Option Json) := do
  let plan ← Program.convert (write.plan [(write.mode, write.leaves)])
  write.attempt plan

end Write

end ItemTable
