import AgentFlow.Main
import AgentFlow.Store.History
import AgentFlow.Worker.Rehearsal
import AgentFlow.Proofs.Chain.Assembly
import AgentFlow.Proofs.Chain.Ids
import AgentFlow.Proofs.Chain.Path
import AgentFlow.Proofs.Task.Entries
import AgentFlow.Proofs.Compile
import AgentFlow.Proofs.ExecutionState
import AgentFlow.Proofs.Chain.Run
import AgentFlow.Proofs.Chain.Tell
import AgentFlow.Proofs.Number.Binary
import AgentFlow.Proofs.Number.Integer
import AgentFlow.Proofs.Text.Parts
import AgentFlow.Proofs.Text.Trim
import AgentFlow.Proofs.Api.Paths
import AgentFlow.Proofs.Api.Changes
import AgentFlow.Proofs.Json.Numbers
import AgentFlow.Proofs.Json.Strings
import AgentFlow.Proofs.Json.Integers
import AgentFlow.Proofs.Json.Arrays
import AgentFlow.Proofs.Json.Values
import AgentFlow.Proofs.Json.Canonical
import AgentFlow.Proofs.Task.Order
import AgentFlow.Proofs.Task.Step
import AgentFlow.Proofs.Task.Normalize
import AgentFlow.Proofs.Task.Encoded
import AgentFlow.Proofs.Store.Ledger
import AgentFlow.Proofs.Store.Log
import AgentFlow.Proofs.Store.Ids
import AgentFlow.Proofs.Store.Reads
import AgentFlow.Proofs.Chain.Exchanges
import AgentFlow.Proofs.Task.Reference
import AgentFlow.Proofs.Task.Arrangement
import AgentFlow.Proofs.Codec
import AgentFlow.Proofs.RunEvent
import AgentFlow.Proofs.Http.PathId
import AgentFlow.Proofs.Api.Runs
import AgentFlow.Proofs.Roster
import AgentFlow.Proofs.Task.Reordering
import AgentFlow.Proofs.Task.Spelling
import AgentFlow.Proofs.Codec.Basic
import AgentFlow.Proofs.Codec.Record
import AgentFlow.Proofs.Exchange
import AgentFlow.Proofs.Codec.Widened
import AgentFlow.Proofs.Store.Kept
import AgentFlow.Proofs.Api.Snapshots
import AgentFlow.Proofs.Api.Lasting
import AgentFlow.Proofs.CommandLine.Arguments
import AgentFlow.Proofs.Codec.Alike
import AgentFlow.Proofs.Catalog
import AgentFlow.Proofs.Store.Seeds
import AgentFlow.Proofs.CommandLine.Program
import AgentFlow.Proofs.StateUpdate
import AgentFlow.Proofs.Store.Revisions
import AgentFlow.Proofs.Resubmission
import AgentFlow.Proofs.Api.Origins
import AgentFlow.Proofs.Settings
import AgentFlow.Proofs.CommandLine.Serving
import AgentFlow.Proofs.Json.Skipped
import AgentFlow.Proofs.Api.Conversations
import AgentFlow.Proofs.Chat.Completion
import AgentFlow.Proofs.Number.Rounding
import AgentFlow.Proofs.Number.Decimal
import AgentFlow.Proofs.Chat.Generation
