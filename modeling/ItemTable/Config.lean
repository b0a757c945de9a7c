import ItemTable.Error
import ItemTable.Json.Pointer

set_option autoImplicit false

/-! # Configuration

Where schemas are and where the store is. A stage keeps the tables of several deployments apart: it
stands before every name that the store sees. -/

namespace ItemTable

/-- Appends a name to a directory. An absolute name stands for itself. -/
def joinPath (directory name : String) : String :=
  if name.startsWith "/" then name
  else if directory = "" || directory.endsWith "/" then directory ++ name
  else directory ++ "/" ++ name

/-- The last part of a path that is neither empty nor a single point. -/
def lastPart? (path : String) : Option (List Char) :=
  ((splitSlash path.toList).filter fun part => part != [] && part != ['.']).getLast?

/-- A file's name up to its last point. A point at the beginning is part of the name, and two points
name no file. -/
def fileStem (path : String) : String :=
  match lastPart? path with
  | none => ""
  | some ['.', '.'] => ""
  | some name =>
    match name.reverse.dropWhile (· != '.') with
    | [] => String.ofList name
    | [_] => String.ofList name
    | _ :: stem => String.ofList stem.reverse

/-- Where schemas and the store are. -/
structure Config where
  stage : Option String
  schemaDirectory : String
  region : Option String
  /-- The address of a local store. -/
  endpoint : Option String
  deriving DecidableEq, Repr

namespace Config

/-- The variable of the stage. -/
def stageVariable : String := "STAGE"

/-- The variable of the schemas' directory. -/
def directoryVariable : String := "DYNAMO_DB_RESOURCE_SCHEMA_DIRECTORY"

/-- The variable of the region. -/
def regionVariable : String := "AWS_REGION"

/-- The variable of a local store's address. -/
def endpointVariable : String := "DYNAMO_DB_ENDPOINT_URL"

/-- The region that a local store is told. -/
def localRegion : String := "dummy"

/-- The configuration in an environment. An empty variable counts as unset; the directory has to be
set. -/
def ofEnvironment (environment : String → Option String) : Except Error Config :=
  let given (name : String) : Option String := (environment name).filter (· != "")
  match given directoryVariable with
  | none => .error (.config (.unset directoryVariable))
  | some directory => .ok
    { stage := given stageVariable
      schemaDirectory := directory
      region := given regionVariable
      endpoint := given endpointVariable }

/-- The configuration for a store on this machine. -/
def ofLocalStore (endpoint schemaDirectory : String) : Config where
  stage := none
  schemaDirectory := schemaDirectory
  region := some localRegion
  endpoint := some endpoint

/-- The name of a table in the store. -/
def physicalName (config : Config) (table : String) : String :=
  match config.stage with
  | some stage => stage ++ "-" ++ table
  | none => table

/-- The file of a table's schema. -/
def schemaPath (config : Config) (table : String) : String :=
  joinPath config.schemaDirectory (table ++ ".json")

/-- The region that the client of a local store has. -/
def clientRegion? (config : Config) : Option String :=
  config.endpoint.map fun _ => config.region.getD localRegion

end Config

end ItemTable
