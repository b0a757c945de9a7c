import ItemTable.StoreValue

set_option autoImplicit false

/-! # Requests to a store

A store keeps items in tables under their keys. `Request` lists all that it can be asked, each
request with the type of its answer. -/

namespace ItemTable

/-- The attributes that a write returns. -/
inductive ReturnedAttributes
  | none
  | allOld
  | allNew
  | updatedOld
  | updatedNew
  deriving DecidableEq, Repr

/-- The store's word for the attributes that a write returns. -/
def ReturnedAttributes.word : ReturnedAttributes → String
  | .none => "NONE"
  | .allOld => "ALL_OLD"
  | .allNew => "ALL_NEW"
  | .updatedOld => "UPDATED_OLD"
  | .updatedNew => "UPDATED_NEW"

/-- What all writes under a condition have in common. -/
structure WriteTerms where
  table : String
  /-- What has to hold of the stored item. -/
  condition : Option String
  names : Record String
  values : Item
  returns : Option ReturnedAttributes

/-- A write of a whole item. -/
structure PutRequest where
  item : Item
  terms : WriteTerms

/-- A change of one item. -/
structure UpdateRequest where
  key : Item
  update : String
  terms : WriteTerms

/-- A read of the items under one partition key. -/
structure QueryRequest where
  table : String
  index : Option String
  condition : String
  projection : Option String
  names : Record String
  values : Item
  /-- Where the page starts. -/
  start : Option Item
  limit : Option Int
  forward : Option Bool

/-- A read that is answered page by page. -/
inductive PageRequest
  | query (request : QueryRequest)
  | scan (table : String) (start : Option Item)

/-- One page of a read, and where the next one starts. -/
structure Page where
  items : List Item
  last : Option Item

/-- What the store says of a table. -/
structure TableDescription where
  name : Option String
  deriving DecidableEq, Repr

/-- Anything a store can be asked. -/
inductive Request
  | get (table : String) (key : Item)
  | put (request : PutRequest)
  | update (request : UpdateRequest)
  | delete (table : String) (key : Item)
  | page (request : PageRequest)
  | batchGet (table : String) (keys : List Item)
  | batchDelete (table : String) (keys : List Item)
  | describe (table : String)

/-- The answer to a request. -/
abbrev Request.Answer : Request → Type
  | .get .. => Option Item
  | .put .. => Unit
  | .update .. => Option Item
  | .delete .. => Option Item
  | .page .. => Page
  | .batchGet .. => List Item
  | .batchDelete .. => Unit
  | .describe .. => TableDescription

end ItemTable
