import ItemTable.Catalog
import ItemTable.Shared
import ItemTable.Store.Remote
import ItemTable.Store.Script
import ItemTable.Table.Update
import ItemTable.Proofs.Rounds
import ItemTable.Proofs.Record
import ItemTable.Proofs.Traversal
import ItemTable.Proofs.Key
import ItemTable.Proofs.Key.Spelling
import ItemTable.Proofs.Placeholder.Words
import ItemTable.Proofs.Placeholder.Names
import ItemTable.Proofs.Condition
import ItemTable.Proofs.Placeholder.Scan
import ItemTable.Proofs.Placeholder.Expressions
import ItemTable.Proofs.Placeholder.Plans
import ItemTable.Proofs.Expression.Tokens
import ItemTable.Proofs.Update.Grammar
import ItemTable.Proofs.Update.ReadBack
import ItemTable.Proofs.Tree.Leaves
import ItemTable.Proofs.Tree.Cut
import ItemTable.Proofs.Schema.Parts
import ItemTable.Proofs.Write.Course
import ItemTable.Proofs.Write.Commit
import ItemTable.Proofs.Write.Guards
import ItemTable.Proofs.Write.Retry
import ItemTable.Proofs.Table.Changes
import ItemTable.Proofs.Table.Sets
import ItemTable.Proofs.Table.Placeholders
import ItemTable.Proofs.Schema.OneForm
import ItemTable.Proofs.Number.Numeral
import ItemTable.Proofs.Text.Base64
import ItemTable.Proofs.Json.ByName
import ItemTable.Proofs.StoreValue.ReadBack
import ItemTable.Proofs.StoreValue.Integers
import ItemTable.Proofs.StoreValue.SetMembers
import ItemTable.Proofs.StoreValue.Locate
import ItemTable.Proofs.Schema.ReadBack
import ItemTable.Proofs.Schema.Verbatim
import ItemTable.Proofs.Table.StoredKeys
import ItemTable.Proofs.Draft7.Keyword
import ItemTable.Proofs.Draft7.Trace
import ItemTable.Proofs.Draft7.Required
import ItemTable.Proofs.Schema.Required
import ItemTable.Proofs.Number.Rounding
import ItemTable.Proofs.Number.Shortest
import ItemTable.Proofs.Number.Nearest
import ItemTable.Proofs.Number.Grammar
import ItemTable.Proofs.Number.Decimal
import ItemTable.Proofs.Number.Whole
import ItemTable.Proofs.Number.Text
import ItemTable.Proofs.Table.Batches
import ItemTable.Proofs.Schema.Lowering
import ItemTable.Proofs.Schema.Relaxed
import ItemTable.Proofs.Draft7.Comes
import ItemTable.Proofs.Draft7.Usable
import ItemTable.Proofs.Schema.Partial
import ItemTable.Proofs.Tree.Rebuild
import ItemTable.Proofs.Tree.Removal
import ItemTable.Proofs.Json.Pointer
import ItemTable.Proofs.Schema.Copies
import ItemTable.Proofs.Schema.Nodes
import ItemTable.Proofs.Table.Removals
import ItemTable.Proofs.Remote.Batch
import ItemTable.Proofs.Table.Pages
import ItemTable.Proofs.Table.Refusals
import ItemTable.Proofs.Table.KeyAttributes
import ItemTable.Proofs.Catalog
import ItemTable.Proofs.Write.Targets
import ItemTable.Proofs.Draft7.Leads
import ItemTable.Proofs.Draft7.Way
import ItemTable.Proofs.Schema.Declared
import ItemTable.Proofs.Schema.Aligned
import ItemTable.Proofs.Schema.Storable
import ItemTable.Proofs.Condition.Grammar
import ItemTable.Proofs.Condition.ReadBack
import ItemTable.Proofs.Condition.Meaning
import ItemTable.Proofs.Condition.Holds
import ItemTable.Proofs.Write.Explain
import ItemTable.Proofs.Table.Reports
import ItemTable.Proofs.Schema.Data
import ItemTable.Proofs.Schema.Spelled
import ItemTable.Proofs.Tree.Insert
import ItemTable.Proofs.Schema.Readable
import ItemTable.Proofs.Table.Returned
import ItemTable.Proofs.Update.References
import ItemTable.Proofs.Table.References
import ItemTable.Proofs.Placeholder.Enumeration
import ItemTable.Proofs.Placeholder.Bits
