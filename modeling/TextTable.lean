import TextTable.Alignment
import TextTable.Cell
import TextTable.Editor.Basic
import TextTable.Editor.Block
import TextTable.Editor.Command
import TextTable.Editor.Replay
import TextTable.Editor.Session
import TextTable.Editor.Sweep
import TextTable.Editor.Workspace
import TextTable.Fault
import TextTable.Margin
import TextTable.Options.Basic
import TextTable.Options.Reader
import TextTable.Options.Value
import TextTable.Options.Writer
import TextTable.Position
import TextTable.Proofs.Cell
import TextTable.Proofs.Editor.CarryOut
import TextTable.Proofs.Editor.ColumnCommands
import TextTable.Proofs.Editor.ColumnMoves
import TextTable.Proofs.Editor.Document
import TextTable.Proofs.Editor.Escape
import TextTable.Proofs.Editor.Exchange
import TextTable.Proofs.Editor.FormatAll
import TextTable.Proofs.Editor.Frame
import TextTable.Proofs.Editor.History
import TextTable.Proofs.Editor.Inside
import TextTable.Proofs.Editor.KeptPlace
import TextTable.Proofs.Editor.Navigation
import TextTable.Proofs.Editor.NormalForm
import TextTable.Proofs.Editor.Operations
import TextTable.Proofs.Editor.Plans
import TextTable.Proofs.Editor.Replay
import TextTable.Proofs.Editor.Request
import TextTable.Proofs.Editor.RowCommands
import TextTable.Proofs.Editor.Runs
import TextTable.Proofs.Editor.Selection
import TextTable.Proofs.Editor.SessionStart
import TextTable.Proofs.Editor.Sessions
import TextTable.Proofs.Editor.Settling
import TextTable.Proofs.Editor.Shows
import TextTable.Proofs.Editor.SmartCursor
import TextTable.Proofs.Editor.Sweeping
import TextTable.Proofs.Editor.Timeless
import TextTable.Proofs.Margin.Pattern
import TextTable.Proofs.Margin.Reserved
import TextTable.Proofs.Options.Accepted
import TextTable.Proofs.Options.Spellings
import TextTable.Proofs.Options.Stable
import TextTable.Proofs.Row.Apart
import TextTable.Proofs.Row.Delimiter
import TextTable.Proofs.Row.Fences
import TextTable.Proofs.Row.Lines
import TextTable.Proofs.Row.Parts
import TextTable.Proofs.Row.Reading
import TextTable.Proofs.Row.Sealed
import TextTable.Proofs.Row.Spans
import TextTable.Proofs.Row.Values
import TextTable.Proofs.Script.Banded
import TextTable.Proofs.Script.Distance
import TextTable.Proofs.Script.Outcome
import TextTable.Proofs.Script.Preference
import TextTable.Proofs.Script.Reach
import TextTable.Proofs.Script.Search
import TextTable.Proofs.Signed
import TextTable.Proofs.Table.Aligned
import TextTable.Proofs.Table.Alignments
import TextTable.Proofs.Table.Columns
import TextTable.Proofs.Table.Completion
import TextTable.Proofs.Table.Grid
import TextTable.Proofs.Table.Height
import TextTable.Proofs.Table.Landing
import TextTable.Proofs.Table.Layout
import TextTable.Proofs.Table.Places
import TextTable.Proofs.Table.RoundTrip
import TextTable.Proofs.Table.Transform
import TextTable.Proofs.Text.Blank
import TextTable.Proofs.Text.Sorted
import TextTable.Proofs.Width
import TextTable.Row.Basic
import TextTable.Row.Parts
import TextTable.Script.Banded
import TextTable.Script.Basic
import TextTable.Script.Shortest
import TextTable.Signed
import TextTable.Table.Basic
import TextTable.Table.Completion
import TextTable.Table.Coordinates
import TextTable.Table.Display
import TextTable.Table.Layout
import TextTable.Table.Named
import TextTable.Table.Reader
import TextTable.Table.Transform
import TextTable.Text.Basic
import TextTable.Text.Quoted
import TextTable.Text.Sorted
import TextTable.Unicode.Blank
import TextTable.Unicode.CanonicalMappings
import TextTable.Unicode.CombiningClass
import TextTable.Unicode.EastAsianWidth
import TextTable.Unicode.Normalization
import TextTable.Unicode.Printable
import TextTable.Unicode.Ranges
import TextTable.Unicode.Unassigned
import TextTable.Width
