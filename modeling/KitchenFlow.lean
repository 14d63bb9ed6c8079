import KitchenFlow.Adapter.Call
import KitchenFlow.Adapter.Error
import KitchenFlow.Command.Activity
import KitchenFlow.Command.Basic
import KitchenFlow.Command.Example
import KitchenFlow.Command.Grammar
import KitchenFlow.Command.Help
import KitchenFlow.Command.Transcript
import KitchenFlow.Config.Display
import KitchenFlow.Config.Error
import KitchenFlow.Config.Normal
import KitchenFlow.Config.Operator
import KitchenFlow.Config.Palette
import KitchenFlow.Config.Schema
import KitchenFlow.Config.Settings
import KitchenFlow.Config.Typed
import KitchenFlow.Flow.Basic
import KitchenFlow.Flow.Kind
import KitchenFlow.Flow.Wire
import KitchenFlow.Graph.Basic
import KitchenFlow.Graph.Search
import KitchenFlow.Graph.Storage
import KitchenFlow.Graph.Validation
import KitchenFlow.Inventory.Matching
import KitchenFlow.Json.Basic
import KitchenFlow.Json.Cursor
import KitchenFlow.Json.Decoder
import KitchenFlow.Json.Document
import KitchenFlow.Json.Printer
import KitchenFlow.Json.Reader
import KitchenFlow.Ledger.Basic
import KitchenFlow.Main
import KitchenFlow.Number.Binary64
import KitchenFlow.Number.Numeral
import KitchenFlow.Number.Shortest
import KitchenFlow.Payload.Basic
import KitchenFlow.Payload.Condition
import KitchenFlow.Payload.Lookup
import KitchenFlow.Payload.Template
import KitchenFlow.Payload.Wire
import KitchenFlow.Proofs.Config.Acceptance
import KitchenFlow.Proofs.Config.Agreement
import KitchenFlow.Proofs.Config.Canonical
import KitchenFlow.Proofs.Config.Rules
import KitchenFlow.Proofs.Config.Settings
import KitchenFlow.Proofs.Config.Typed
import KitchenFlow.Proofs.Digits
import KitchenFlow.Proofs.Fallible
import KitchenFlow.Proofs.Flow.Wire
import KitchenFlow.Proofs.Graph.Checks
import KitchenFlow.Proofs.Graph.Cycles
import KitchenFlow.Proofs.Graph.Defects
import KitchenFlow.Proofs.Graph.Depiction
import KitchenFlow.Proofs.Graph.Presentation
import KitchenFlow.Proofs.Graph.Restriction
import KitchenFlow.Proofs.Graph.Search
import KitchenFlow.Proofs.Graph.Storage
import KitchenFlow.Proofs.Graph.WellFormed
import KitchenFlow.Proofs.Inventory
import KitchenFlow.Proofs.Json.Decoding
import KitchenFlow.Proofs.Json.Literals
import KitchenFlow.Proofs.Json.Numbers
import KitchenFlow.Proofs.Json.Reading
import KitchenFlow.Proofs.Json.Room
import KitchenFlow.Proofs.Json.Scanning
import KitchenFlow.Proofs.Json.Values
import KitchenFlow.Proofs.Ledger
import KitchenFlow.Proofs.Ledger.Gains
import KitchenFlow.Proofs.Ledger.History
import KitchenFlow.Proofs.Number
import KitchenFlow.Proofs.Number.Range
import KitchenFlow.Proofs.Number.Shortest
import KitchenFlow.Proofs.Number.Values
import KitchenFlow.Proofs.Payload
import KitchenFlow.Proofs.Payload.Comparison
import KitchenFlow.Proofs.Payload.Hiding
import KitchenFlow.Proofs.Payload.Pieces
import KitchenFlow.Proofs.Payload.Wire
import KitchenFlow.Proofs.Run.Accounting
import KitchenFlow.Proofs.Run.Bookkeeping
import KitchenFlow.Proofs.Run.Budget
import KitchenFlow.Proofs.Run.Calls
import KitchenFlow.Proofs.Run.Chronicle
import KitchenFlow.Proofs.Run.Effect
import KitchenFlow.Proofs.Run.Lockstep
import KitchenFlow.Proofs.Run.Memoryless
import KitchenFlow.Proofs.Run.Mirror
import KitchenFlow.Proofs.Run.Moves
import KitchenFlow.Proofs.Run.Narration
import KitchenFlow.Proofs.Run.Once
import KitchenFlow.Proofs.Run.Parts
import KitchenFlow.Proofs.Run.Preview
import KitchenFlow.Proofs.Run.Recall
import KitchenFlow.Proofs.Run.Recursion
import KitchenFlow.Proofs.Run.Rehearsal
import KitchenFlow.Proofs.Run.Resumption
import KitchenFlow.Proofs.Run.Routes
import KitchenFlow.Proofs.Run.Runner
import KitchenFlow.Proofs.Run.Secrecy
import KitchenFlow.Proofs.Run.Story
import KitchenFlow.Proofs.Run.Triggers
import KitchenFlow.Proofs.Run.Walks
import KitchenFlow.Proofs.Run.Writes
import KitchenFlow.Proofs.Schedule.Courses
import KitchenFlow.Proofs.Schedule.Coverage
import KitchenFlow.Proofs.Schedule.Dispatches
import KitchenFlow.Proofs.Schedule.Evaluations
import KitchenFlow.Proofs.Schedule.Exclusion
import KitchenFlow.Proofs.Schedule.Faults
import KitchenFlow.Proofs.Schedule.Horizon
import KitchenFlow.Proofs.Schedule.Interleaving
import KitchenFlow.Proofs.Schedule.Organizations
import KitchenFlow.Proofs.Schedule.Quiet
import KitchenFlow.Proofs.Schedule.Retries
import KitchenFlow.Proofs.Schedule.Slots
import KitchenFlow.Proofs.Schedule.Spacing
import KitchenFlow.Proofs.Schedule.Stranded
import KitchenFlow.Proofs.Schedule.Succession
import KitchenFlow.Proofs.Schedule.Tallies
import KitchenFlow.Proofs.Schedule.Turns
import KitchenFlow.Proofs.Schedule.Workers
import KitchenFlow.Proofs.Store.Changes
import KitchenFlow.Proofs.Store.Credentials
import KitchenFlow.Proofs.Store.Files
import KitchenFlow.Proofs.Store.Layout
import KitchenFlow.Proofs.Store.Listing
import KitchenFlow.Proofs.Store.Memory
import KitchenFlow.Proofs.Store.Paths
import KitchenFlow.Proofs.Store.Replacement
import KitchenFlow.Proofs.Store.Texts
import KitchenFlow.Proofs.Store.Tree
import KitchenFlow.Proofs.Text
import KitchenFlow.Proofs.Text.Bytes
import KitchenFlow.Proofs.Time.Calendar
import KitchenFlow.Proofs.Time.Timestamp
import KitchenFlow.Proofs.Vault
import KitchenFlow.Proofs.Vault.Envelope
import KitchenFlow.Run.Action
import KitchenFlow.Run.Engine
import KitchenFlow.Run.Event
import KitchenFlow.Run.Identity
import KitchenFlow.Run.Interpreter
import KitchenFlow.Run.Recipe
import KitchenFlow.Run.Result
import KitchenFlow.Run.Setup
import KitchenFlow.Run.State
import KitchenFlow.Run.Step
import KitchenFlow.Run.Walk
import KitchenFlow.Run.World
import KitchenFlow.Schedule.Guard
import KitchenFlow.Schedule.Report
import KitchenFlow.Schedule.Rhythm
import KitchenFlow.Schedule.Tick
import KitchenFlow.Store.FileTree
import KitchenFlow.Store.Files
import KitchenFlow.Store.Memory
import KitchenFlow.Text.Blank
import KitchenFlow.Text.Case
import KitchenFlow.Text.Hex
import KitchenFlow.Text.Printable
import KitchenFlow.Text.Quoted
import KitchenFlow.Text.Split
import KitchenFlow.Text.Token
import KitchenFlow.Time.Calendar
import KitchenFlow.Time.Instant
import KitchenFlow.Time.Timestamp
import KitchenFlow.Url.Address
import KitchenFlow.Url.Basic
import KitchenFlow.Url.Domain
import KitchenFlow.Url.DomainTable
import KitchenFlow.Url.Parser
import KitchenFlow.Url.Punycode
import KitchenFlow.Vault.Aes
import KitchenFlow.Vault.Block
import KitchenFlow.Vault.Credential
import KitchenFlow.Vault.Envelope
import KitchenFlow.Vault.Gcm
import KitchenFlow.Web.Collaborator
import KitchenFlow.Web.MediaType
import KitchenFlow.Web.Request
import KitchenFlow.Web.Service
