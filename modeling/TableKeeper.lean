import TableKeeper.Json.Document
import TableKeeper.Descriptor
import TableKeeper.Store.Operations
import TableKeeper.Store.Inspect
import TableKeeper.Store.Opening
import TableKeeper.Script
import TableKeeper.Lock
import TableKeeper.Config.File
import TableKeeper.Logging.Installation
import TableKeeper.Proofs.Sql.Spelling
import TableKeeper.Proofs.Sql.Requests
import TableKeeper.Proofs.Program
import TableKeeper.Proofs.Store.Requests
import TableKeeper.Proofs.OrderedMap
import TableKeeper.Proofs.Sql.Inlining
import TableKeeper.Proofs.Sql.Expressions
import TableKeeper.Proofs.Sql.Meaning
import TableKeeper.Proofs.Sql.Conditions
import TableKeeper.Proofs.Sql.Numerals
import TableKeeper.Proofs.Sql.Queries
import TableKeeper.Proofs.Store.Queries
import TableKeeper.Proofs.Sql.Changes
import TableKeeper.Proofs.Sheet
import TableKeeper.Proofs.Store.Writing
import TableKeeper.Proofs.Exchange
import TableKeeper.Proofs.Store.Accounts
import TableKeeper.Proofs.Sheet.Constraints
import TableKeeper.Proofs.Store.Patching
import TableKeeper.Proofs.Store.Fallback
import TableKeeper.Proofs.Sheet.Removing
import TableKeeper.Proofs.Store.Agreement
import TableKeeper.Proofs.Sql.Sentences
import TableKeeper.Proofs.Store.Sentences
import TableKeeper.Proofs.Interleaving
import TableKeeper.Proofs.Sql.Canonical
import TableKeeper.Proofs.Store.Interleaving
import TableKeeper.Proofs.Engine.Literals
import TableKeeper.Proofs.Engine.Substitutes
import TableKeeper.Proofs.Engine.TableQueries
import TableKeeper.Proofs.Engine.Sessions
import TableKeeper.Proofs.Store.Bindings
import TableKeeper.Proofs.Descriptor.Grammar
import TableKeeper.Proofs.Store.Refusals
import TableKeeper.Proofs.Outcome
import TableKeeper.Proofs.Store.Measured
import TableKeeper.Proofs.Store.Provenance
import TableKeeper.Proofs.Store.Traces
import TableKeeper.Proofs.Sql.Placeholders
import TableKeeper.Proofs.Edits
import TableKeeper.Proofs.Record
import TableKeeper.Proofs.Store.Columns
import TableKeeper.Proofs.Json.Scalars
import TableKeeper.Proofs.Json.Document
import TableKeeper.Proofs.Sql.Verbs
import TableKeeper.Proofs.Store.Panics
import TableKeeper.Proofs.Engine.Rest
import TableKeeper.Proofs.Turns
import TableKeeper.Proofs.Client
import TableKeeper.Proofs.Pattern
import TableKeeper.Proofs.Engine.Paging
import TableKeeper.Proofs.Store.Paging
import TableKeeper.Proofs.Reader
import TableKeeper.Proofs.Store.Iteration
import TableKeeper.Proofs.Config.Layering
import TableKeeper.Proofs.Store.Opening
import TableKeeper.Proofs.Cursor
import TableKeeper.Proofs.Descriptor.Resolution
import TableKeeper.Proofs.Logging.Installation
