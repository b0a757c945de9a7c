import ItemTable.Schema.Finding
import ItemTable.StoreValue.Convert
import ItemTable.Text.Quoted

set_option autoImplicit false

/-! # Errors

An `Error` says why an operation failed. Each has a status, like an answer's status on the web, and
a message for the caller. -/

namespace ItemTable

/-- A failure that the store reports. -/
inductive StoreError
  /-- A condition did not hold. -/
  | conditionFailed (message : String)
  /-- The request does not fit the item. -/
  | validation (message : String)
  | service (code message : String)
  /-- The request was not made or not answered; the cause may be known. -/
  | request (cause : Option String)
  deriving DecidableEq, Repr, Inhabited

namespace StoreError

/-- The message of a store's failure. -/
def message : StoreError → String
  | .conditionFailed text => "conditional check failed: " ++ text
  | .validation text => "validation failed: " ++ text
  | .service code text => code ++ ": " ++ text
  | .request (some cause) => "store request failed: " ++ cause
  | .request none => "store request failed"

/-- Whether `part` stands somewhere in the text. -/
def occursIn (part : List Char) : List Char → Bool
  | [] => part.isEmpty
  | c :: rest => part.isPrefixOf (c :: rest) || occursIn part rest

/-- What the store says of an update below a map that is not there. -/
def invalidDocumentPath : String :=
  "document path provided in the update expression is invalid for update"

/-- What the store says of an expression that reads an attribute that is not there. -/
def missingAttribute : String :=
  "provided expression refers to an attribute that does not exist in the item"

/-- Whether an update failed because a path that it writes or reads is not there. -/
def isMissingPath : StoreError → Bool
  | .validation text =>
    occursIn invalidDocumentPath.toList text.toList || occursIn missingAttribute.toList text.toList
  | _ => false

end StoreError

/-- What is wrong with the schema of a table. -/
inductive SchemaFault
  /-- The document's text cannot be read. -/
  | unreadable
  /-- The text is no JSON. -/
  | malformed
  /-- The document is no draft 7 schema. -/
  | notASchema
  /-- A primary key of none or of more than two attributes. -/
  | keyNames (names : List String)
  deriving DecidableEq, Repr

/-- The wording of a schema's fault. -/
def SchemaFault.message : SchemaFault → String
  | .unreadable => "cannot be read"
  | .malformed => "is not a JSON document"
  | .notASchema => "is not a draft 7 schema"
  | .keyNames names => "primary key must have one or two attributes, got " ++ Quoted.names names

/-- What is wrong with the configuration. -/
inductive ConfigFault
  | unset (name : String)
  | globalMissing
  | globalPresent
  deriving DecidableEq, Repr

/-- The wording of a configuration's fault. -/
def ConfigFault.message : ConfigFault → String
  | .unset name => name ++ " is not set"
  | .globalMissing => "the global resource is not initialised"
  | .globalPresent => "the global resource is already initialised"

/-- Why an operation failed. Tables are named as callers name them; keys and items are given as
texts. -/
inductive Error
  /-- Key attributes without a value. -/
  | missingKey (table : String) (required missing : List String)
  /-- Something else than the key attributes. -/
  | wrongKey (table : String) (required given : List String)
  | validation (table : String) (mode : ValidationMode) (finding : Finding)
  | notFound (table key : String)
  | alreadyExists (table item : String)
  /-- Attributes that had to be absent. -/
  | attributeExists (table key : String) (paths : List String)
  /-- Attributes that had to be there. -/
  | attributeMissing (table key : String) (paths : List String)
  | conditionFailed (table key : String)
  | noPosition (table key path : String) (position : Nat)
  | unknownIndex (table index : String)
  | emptyUpdate (table : String)
  | schema (table : String) (fault : SchemaFault)
  | config (fault : ConfigFault)
  | conversion (error : ConversionError)
  | store (error : StoreError)

namespace Error

/-- The status of an error. -/
def status : Error → Nat
  | .missingKey .. | .wrongKey .. | .unknownIndex .. | .emptyUpdate .. => 400
  | .validation _ _ finding =>
    match finding.kind with
    | .type => 415
    | .required | .additionalProperties => 400
    | _ => 500
  | .notFound .. => 404
  | .alreadyExists .. | .attributeExists .. | .attributeMissing .. => 409
  | .conditionFailed .. => 412
  | .noPosition .. => 416
  | .schema .. | .config .. | .conversion .. | .store .. => 500

/-- The message of a failed validation. -/
def validationMessage (table : String) (mode : ValidationMode) (finding : Finding) : String :=
  match finding.kind with
  | .type =>
    "Wrong value type in " ++ table ++ " for key=" ++ "/".intercalate finding.path ++ ":\n"
      ++ finding.message ++ "."
      ++ (if finding.enumValues.isEmpty then ""
          else "\nenum: " ++ (Json.array finding.enumValues).text)
  | .required =>
    finding.message ++ " for table " ++ table
      ++ (if mode = .remove then " and cannot be removed" else " and is missing")
  | .additionalProperties =>
    finding.message ++ " for table " ++ table ++ "\npath to unexpected property: "
      ++ Quoted.names finding.path
  | _ => "unexpected database validation error for table " ++ table ++ ": " ++ finding.message

/-- The message for the caller. -/
def message : Error → String
  | .missingKey table required missing =>
    "Wrong primary for " ++ table ++ ": required for table is " ++ Quoted.names required
      ++ "; missing " ++ Quoted.names missing
  | .wrongKey table required given =>
    "Wrong primary for " ++ table ++ ": required for table is " ++ Quoted.names required
      ++ "; given " ++ Quoted.names given
  | .validation table mode finding => validationMessage table mode finding
  | .notFound table key => key ++ " not found in " ++ table
  | .alreadyExists table item =>
    "Item is already existing.\nTable: " ++ table ++ "\nItem: " ++ item
  | .attributeExists table key paths =>
    "attributes " ++ Quoted.names paths ++ " already exist in " ++ key ++ " of table " ++ table
  | .attributeMissing table key paths =>
    "attributes " ++ Quoted.names paths ++ " do not exist in " ++ key ++ " of table " ++ table
  | .conditionFailed table key => "condition not met for " ++ key ++ " in table " ++ table
  | .noPosition table key path position =>
    path ++ " of " ++ key ++ " in table " ++ table ++ " has no position " ++ Nat.repr position
  | .unknownIndex table index => index ++ " is not an index of table " ++ table
  | .emptyUpdate table => "nothing to update in table " ++ table
  | .schema table fault => "invalid schema for table " ++ table ++ ": " ++ fault.message
  | .config fault => "invalid configuration: " ++ fault.message
  | .conversion error => error.message
  | .store error => error.message

end Error

end ItemTable
