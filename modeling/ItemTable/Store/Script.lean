import ItemTable.Store.Program

set_option autoImplicit false

/-! # Stores with a script

A scripted store knows nothing: it answers each request with the next reply of its script and notes
what it was asked. It stands for every store, since any store's answers make a script. -/

namespace ItemTable

/-- A reply that waits for its request. -/
inductive Reply
  | item (item : Option Item)
  | accepted
  | page (page : Page)
  | items (items : List Item)
  | description (description : TableDescription)
  | failed (error : StoreError)

/-- The replies still to give and the requests so far. -/
structure Script where
  replies : List Reply
  requests : List Request

/-- The answer that a reply is to a request; one of another form is a failure. -/
def Reply.answer : (request : Request) → Reply → Except StoreError request.Answer
  | _, .failed fault => .error fault
  | .get .., .item found => .ok found
  | .update .., .item found => .ok found
  | .delete .., .item found => .ok found
  | .put .., .accepted => .ok ()
  | .batchDelete .., .accepted => .ok ()
  | .page .., .page found => .ok found
  | .batchGet .., .items found => .ok found
  | .describe .., .description found => .ok found
  | _, _ => .error (.service "BadReply" "")

namespace Script

/-- The answer to a request; an empty script has none. -/
def answer (request : Request) (script : Script) : Except StoreError request.Answer × Script :=
  let requests := script.requests ++ [request]
  match script.replies with
  | [] => (.error (.service "NoReply" ""), ⟨[], requests⟩)
  | reply :: rest => (reply.answer request, ⟨rest, requests⟩)

end Script

/-- The store that follows its script. -/
def scripted : Store Script where
  answer := Script.answer
  supply script := script.replies.length

end ItemTable
