import Display3270.Json.Printer
import Display3270.Json.Record
import Display3270.Text.Blank
import Display3270.Text.Lines
import Display3270.Text.Cluster
import Display3270.Screen.Cell
import Display3270.Screen.Cursor
import Display3270.Indication.Writer
import Display3270.Session
import Display3270.Lifecycle
import Display3270.Config
import Display3270.LogFilter.Basic
import Display3270.TraceLog
import Display3270.Replay
import Display3270.Client
import Display3270.Main
import Display3270.Proofs.Clusters
import Display3270.Proofs.Grid
import Display3270.Proofs.Watching
import Display3270.Proofs.History
import Display3270.Proofs.StatusTexts
import Display3270.Proofs.Calls
import Display3270.Proofs.Attachment
import Display3270.Proofs.Trace
import Display3270.Proofs.Json.Normal
import Display3270.Proofs.Json.Printing
import Display3270.Proofs.Json.Texts
import Display3270.Proofs.Json.Fields
import Display3270.Proofs.Indication.Decoding
import Display3270.Proofs.Indication.Records
import Display3270.Proofs.Indication.RoundTrip
import Display3270.Proofs.Resync
import Display3270.Proofs.Indication.Tags
import Display3270.Proofs.Json.Shapes
import Display3270.Proofs.Serving
import Display3270.Proofs.Json.Replacing
import Display3270.Proofs.Indication.Shapes
import Display3270.Proofs.Indication.Tolerance
import Display3270.Proofs.Lines
import Display3270.Proofs.Operations
import Display3270.Proofs.Snapshots
import Display3270.Proofs.Position
import Display3270.Proofs.Blanks
import Display3270.Proofs.Passing
import Display3270.Proofs.Indication.Colors
import Display3270.Proofs.Traps
import Display3270.Proofs.Repeats
import Display3270.Proofs.Requests
import Display3270.Proofs.Captures
import Display3270.Proofs.Indication.Batches
import Display3270.Proofs.Cuts
import Display3270.Proofs.Reorderings
import Display3270.Proofs.PlainTexts
import Display3270.Proofs.TypedLines
import Display3270.Proofs.KeyNames
import Display3270.Proofs.FunctionKeys
import Display3270.Proofs.Waits
import Display3270.Proofs.Indication.Numbers
import Display3270.Proofs.SavedConfigs
import Display3270.Proofs.PartialConfigs
import Display3270.Proofs.CodeRanges
import Display3270.Proofs.LogDirectives
import Display3270.Proofs.LogFilters
import Display3270.Proofs.Patterns
import Display3270.Proofs.Commands
