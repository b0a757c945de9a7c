import ItemTable.Store.Program
import ItemTable.Store.Remote.Output

set_option autoImplicit false

/-! # Lines to a remote store

A remote store is asked by calls: the name of an operation and a document. `Remote.exchange` is the
only access to the line; the functions after it read replies. A reply that reports a failure without
a code, or whose members do not have their shapes, leaves the failure unexplained.

Every call has one reply, the one that the client hands on. A client may repeat a request over the
network on its own account before it does so; such repetitions lie below the line, and neither the
calls nor the replies of a line show them. -/

namespace ItemTable

/-- A call: an operation and its input. -/
structure WireCall where
  operation : String
  body : Json

/-- A reply that the client hands on for a call: a status and a document. -/
structure WireReply where
  status : Nat
  body : Json

/-- The replies still to come and the calls so far. -/
structure Line where
  replies : List WireReply
  calls : List WireCall

/-- An exchange of calls and replies on a line. -/
abbrev Exchange (α : Type) : Type := ExceptT StoreError (StateM Line) α

namespace Remote

/-- The reply of a line on which nobody answers. -/
def noReply : WireReply := ⟨400, .object [("__type", .string "NoReply")]⟩

/-- One call and the one reply that the client hands on for it. -/
def exchange (call : WireCall) : Exchange WireReply :=
  fun line =>
    let calls := line.calls ++ [call]
    match line.replies with
    | [] => (.ok noReply, ⟨[], calls⟩)
    | reply :: rest => (.ok reply, ⟨rest, calls⟩)

/-- What a caller learns of a failure that has no code. -/
def unexplained : StoreError := .request none

/-- The code of a failure: what stands before a colon and after a name space. -/
def bareCode (code : String) : String :=
  let cs := code.toList.takeWhile (· != ':')
  if cs.contains '#' then String.ofList ((cs.dropWhile (· != '#')).drop 1) else String.ofList cs

/-- The failure of a code. -/
def failureOfCode (code message : String) : StoreError :=
  match code with
  | "ConditionalCheckFailedException" => .conditionFailed message
  | "ValidationException" => .validation message
  | _ => .service code message

/-- A member that is there and is not `null`. -/
def present? (members : Record Json) (name : String) : Option Json :=
  (members.get? name).filter fun value => !value.isNull

/-- The text of a member that has one. -/
def text? (members : Record Json) (name : String) : Option String :=
  (members.get? name).bind Json.string?

/-- The code that a document reports. -/
def code? (members : Record Json) : Option String :=
  ((text? members "code").or (text? members "__type")).map bareCode

/-- The names under which a document reports a message. -/
def messageNames : List String := ["message", "Message", "errorMessage"]

/-- The message that a document reports: the last one, or the empty text. -/
def message (members : Record Json) : String :=
  let texts := members.filterMap fun (name, value) =>
    if messageNames.contains name then value.string? else none
  texts.getLast?.getD ""

/-- The failure that an operation reports by a document. -/
def failure (operation : String) (body : Json) : StoreError :=
  match body with
  | .object members =>
    match code? members with
    | none => unexplained
    | some code =>
      if (Shape.knownCodes operation).contains code
          && !Shape.membersFit (Shape.failure code) members then unexplained
      else failureOfCode code (message members)
  | _ => unexplained

/-- The output of an operation in a reply that reports success. -/
def output (operation : String) (reply : WireReply) : Except StoreError (Record Json) :=
  if 200 ≤ reply.status ∧ reply.status < 300 then
    match reply.body with
    | .object members =>
      if Shape.membersFit (Shape.output operation) members then .ok members
      else .error unexplained
    | _ => .error unexplained
  else .error (failure operation reply.body)

/-- What a reader finds in a member, or `default` if there is no such member. -/
def member {α : Type} (members : Record Json) (name : String) (default : α)
    (read : Json → Option α) : Except StoreError α :=
  match present? members name with
  | none => .ok default
  | some value =>
    match read value with
    | some a => .ok a
    | none => .error unexplained

/-- A list of parts that one reader reads. -/
def readList {α : Type} (read : Json → Option α) (value : Json) : Option (List α) :=
  value.array?.bind fun elements => allSome (elements.map read)

/-- The part of an object that belongs to a table, or `default` if there is none. -/
def ofTable {α : Type} (table : String) (default : α) (read : Json → Option α) (value : Json) :
    Option α :=
  value.object?.bind fun members =>
    match present? members table with
    | none => some default
    | some part => read part

/-- An item that may be missing. -/
def itemMember (members : Record Json) (name : String) : Except StoreError (Option Item) :=
  member members name none fun value => (StoreValue.itemOfWire? value).map some

/-- A list of items; none if it is missing. -/
def itemsMember (members : Record Json) (name : String) : Except StoreError (List Item) :=
  member members name [] (readList StoreValue.itemOfWire?)

/-- The page that an output is. The next page starts nowhere if its start has no attributes. -/
def page (members : Record Json) : Except StoreError Page := do
  let items ← itemsMember members "Items"
  let last ← itemMember members "LastEvaluatedKey"
  .ok ⟨items, last.filter fun key => !key.isEmpty⟩

/-- The description of a table in an output. -/
def description (table : String) (members : Record Json) : Except StoreError TableDescription :=
  match present? members "Table" with
  | none =>
    .error (.service "ResourceNotFoundException" ("no description returned for " ++ table))
  | some (.object described) =>
    (member described "TableName" none fun name => name.string?.map some).map (⟨·⟩)
  | some _ => .error unexplained

/-- A result that needs no line. -/
def settled {α : Type} (result : Except StoreError α) : Exchange α := fun line => (result, line)

/-- A call whose input can be written, and its output. -/
def send (operation : String) (body : Option Json) : Exchange (Record Json) :=
  match body with
  | none => throw unexplained
  | some body => do
    let reply ← exchange ⟨operation, body⟩
    settled (output operation reply)

end Remote

end ItemTable
