import PlanGraph.Canvas.Basic
import PlanGraph.Canvas.Placement
import PlanGraph.Checked
import PlanGraph.Compile.Compilation
import PlanGraph.Compile.Inputs
import PlanGraph.Compile.Links
import PlanGraph.Compile.Outline
import PlanGraph.Compile.Selection
import PlanGraph.Compile.Sketch
import PlanGraph.Failure
import PlanGraph.Fault
import PlanGraph.Issue
import PlanGraph.Json.Basic
import PlanGraph.Json.Order
import PlanGraph.Json.Printer
import PlanGraph.Json.Reader
import PlanGraph.Json.Sequence
import PlanGraph.Json.Shown
import PlanGraph.Main
import PlanGraph.Mention
import PlanGraph.Number.Binary64
import PlanGraph.Number.Mixed
import PlanGraph.Number.Shortest
import PlanGraph.Partition
import PlanGraph.Patch.Apply
import PlanGraph.Patch.Changes
import PlanGraph.Patch.Envelope
import PlanGraph.Patch.Operation
import PlanGraph.Patch.Script
import PlanGraph.Plan.Basic
import PlanGraph.Plan.Task
import PlanGraph.Plan.Variable
import PlanGraph.Proofs.Outcome
import PlanGraph.Server
import PlanGraph.Server.Message
import PlanGraph.Settings
import PlanGraph.Summary
import PlanGraph.Supply
import PlanGraph.Text.Blank
import PlanGraph.Text.Digits
import PlanGraph.Text.Hex
import PlanGraph.Text.Integer
import PlanGraph.Text.LetterCase
import PlanGraph.Text.LetterCaseTable
import PlanGraph.Text.Lines
import PlanGraph.Text.Preview
import PlanGraph.Text.Printable
import PlanGraph.Text.Quoted
import PlanGraph.Text.Ranges
import PlanGraph.Tool.Arguments
import PlanGraph.Tool.Call
import PlanGraph.Tool.Catalog
import PlanGraph.Tool.Result
import PlanGraph.Tool.Schema
import PlanGraph.Toolset
import PlanGraph.Proofs.Checked
import PlanGraph.Proofs.Plan.Soundness
import PlanGraph.Proofs.Patch.Effect
import PlanGraph.Proofs.Patch.Run
import PlanGraph.Proofs.Patch.Reading
import PlanGraph.Proofs.Patch.History
import PlanGraph.Proofs.Patch.Ingestion
import PlanGraph.Proofs.Patch.Sequence
import PlanGraph.Proofs.Mention.Pieces
import PlanGraph.Proofs.Compile.Edges
import PlanGraph.Proofs.Compile.Readings
import PlanGraph.Proofs.Compile.Ids
import PlanGraph.Proofs.Compile.Grid
import PlanGraph.Proofs.Compile.Queries
import PlanGraph.Proofs.Compile.Totality
import PlanGraph.Proofs.Compile.Recompilation
import PlanGraph.Proofs.Patch.References
import PlanGraph.Proofs.Plan.Grammar
import PlanGraph.Proofs.Plan.RoundTrip
import PlanGraph.Proofs.Compile.Reordering
import PlanGraph.Proofs.Patch.LastWriter
import PlanGraph.Proofs.Patch.Persistence
import PlanGraph.Proofs.Patch.Answers
import PlanGraph.Proofs.Compile.Protocol
import PlanGraph.Proofs.Nesting
import PlanGraph.Proofs.Compile.Deletion
import PlanGraph.Proofs.Text.Fences
import PlanGraph.Proofs.Text.Hex
import PlanGraph.Proofs.Json.Respacing.Values
import PlanGraph.Proofs.Json.Written
import PlanGraph.Proofs.Patch.Script
import PlanGraph.Proofs.Compile.Positions
import PlanGraph.Proofs.Compile.Draws
import PlanGraph.Proofs.Tool.Results
import PlanGraph.Proofs.Number.Rounding
import PlanGraph.Proofs.Number.Shortest
import PlanGraph.Proofs.Json.ReadBack.Floats
import PlanGraph.Proofs.Json.ReadBack.Layout
import PlanGraph.Proofs.Tool.Schema
import PlanGraph.Proofs.Json.Decoded
import PlanGraph.Proofs.Plan.Legible
import PlanGraph.Proofs.Patch.Refusals
import PlanGraph.Proofs.Compile.Legible
import PlanGraph.Proofs.Tool.Legible
import PlanGraph.Proofs.Server
import PlanGraph.Proofs.Mention.Chunks
import PlanGraph.Proofs.Mention.Repeated
import PlanGraph.Proofs.Compile.Cells
import PlanGraph.Proofs.Tool.Forms
import PlanGraph.Proofs.Compile.Connections
import PlanGraph.Proofs.Patch.Merging
import PlanGraph.Proofs.Patch.Verdicts
import PlanGraph.Proofs.Patch.Commuting
import PlanGraph.Proofs.Patch.Undoing
import PlanGraph.Proofs.Patch.Completeness
import PlanGraph.Proofs.Text.Feeds
import PlanGraph.Proofs.Json.Shown
import PlanGraph.Proofs.Patch.Log
import PlanGraph.Proofs.Patch.LogLines
import PlanGraph.Proofs.Compile.Selection
import PlanGraph.Proofs.Toolset
import PlanGraph.Proofs.Compile.CheckedToolsets
import PlanGraph.Proofs.Compile.Variables
import PlanGraph.Proofs.Summary
import PlanGraph.Proofs.Plan.Repeats
import PlanGraph.Proofs.Canvas.Placement
import PlanGraph.Proofs.Toolset.Rereading
import PlanGraph.Proofs.Compile.Inputs
