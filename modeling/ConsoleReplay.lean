import ConsoleReplay.Capture.Clean
import ConsoleReplay.Capture.PlainText
import ConsoleReplay.Capture.Token
import ConsoleReplay.Command.Arguments
import ConsoleReplay.Command.Run
import ConsoleReplay.Dialect.Basic
import ConsoleReplay.Dialect.Recognition
import ConsoleReplay.Dialect.RouterOs
import ConsoleReplay.Json.Basic
import ConsoleReplay.Json.Numeral
import ConsoleReplay.Json.Printer
import ConsoleReplay.Json.Reader
import ConsoleReplay.Json.Record
import ConsoleReplay.Main
import ConsoleReplay.Markup.Piece
import ConsoleReplay.Markup.Rule
import ConsoleReplay.Markup.Styled
import ConsoleReplay.Number.Double
import ConsoleReplay.Number.Shortest
import ConsoleReplay.Number.Word
import ConsoleReplay.Pattern.Basic
import ConsoleReplay.Pattern.Console
import ConsoleReplay.Replayer
import ConsoleReplay.Screen.Basic
import ConsoleReplay.Screen.Decoder
import ConsoleReplay.Screen.Erase
import ConsoleReplay.Screen.Row
import ConsoleReplay.Screen.Runs
import ConsoleReplay.Screen.Sequence
import ConsoleReplay.Screen.Session
import ConsoleReplay.Session.Analysis
import ConsoleReplay.Session.Encoding
import ConsoleReplay.Session.Fragments
import ConsoleReplay.Session.Frame
import ConsoleReplay.Session.Noise
import ConsoleReplay.Session.Policy
import ConsoleReplay.Session.Refinement
import ConsoleReplay.Session.Report
import ConsoleReplay.Session.Row
import ConsoleReplay.Session.Timeline
import ConsoleReplay.Settings.Basic
import ConsoleReplay.Settings.Reading
import ConsoleReplay.Source.Fault
import ConsoleReplay.Source.Layout
import ConsoleReplay.Source.Recording
import ConsoleReplay.Style.Basic
import ConsoleReplay.Style.Color
import ConsoleReplay.Style.Run
import ConsoleReplay.Style.Sgr
import ConsoleReplay.Text.Blank
import ConsoleReplay.Text.CodeRanges
import ConsoleReplay.Text.Digit
import ConsoleReplay.Text.Lines
import ConsoleReplay.Text.Printable
import ConsoleReplay.Text.Quoted
import ConsoleReplay.Text.Utf8
import ConsoleReplay.Text.Word
import ConsoleReplay.Text.ZeroWidth
import ConsoleReplay.Time.Calendar
import ConsoleReplay.Time.Instant
import ConsoleReplay.Time.Rfc3339
import ConsoleReplay.Toml.Basic
import ConsoleReplay.Toml.Document
import ConsoleReplay.Toml.Quoted
import ConsoleReplay.Toml.Reader
import ConsoleReplay.Toml.Scalar
import ConsoleReplay.Proofs.Capture.Editing
import ConsoleReplay.Proofs.Capture.Legible
import ConsoleReplay.Proofs.Capture.NormalForm
import ConsoleReplay.Proofs.Capture.Parameters
import ConsoleReplay.Proofs.Capture.Projection
import ConsoleReplay.Proofs.Capture.Rereading
import ConsoleReplay.Proofs.Capture.Silence
import ConsoleReplay.Proofs.Capture.Visible
import ConsoleReplay.Proofs.Dialect.Spelling
import ConsoleReplay.Proofs.Json.Document
import ConsoleReplay.Proofs.Json.Grammar
import ConsoleReplay.Proofs.Json.Lexical
import ConsoleReplay.Proofs.Json.Padding
import ConsoleReplay.Proofs.Markup.Cleaning
import ConsoleReplay.Proofs.Markup.Grammar
import ConsoleReplay.Proofs.Markup.Insertion
import ConsoleReplay.Proofs.Markup.Priority
import ConsoleReplay.Proofs.Markup.Prompts
import ConsoleReplay.Proofs.Markup.Readback
import ConsoleReplay.Proofs.Markup.Safety
import ConsoleReplay.Proofs.Markup.Styling
import ConsoleReplay.Proofs.Pattern.Cutting
import ConsoleReplay.Proofs.Pattern.Language
import ConsoleReplay.Proofs.Screen.Bounds
import ConsoleReplay.Proofs.Screen.Capacity
import ConsoleReplay.Proofs.Screen.Checked
import ConsoleReplay.Proofs.Screen.Counted
import ConsoleReplay.Proofs.Screen.Dense
import ConsoleReplay.Proofs.Screen.Dirty
import ConsoleReplay.Proofs.Screen.Display
import ConsoleReplay.Proofs.Screen.Erasure
import ConsoleReplay.Proofs.Screen.Escape
import ConsoleReplay.Proofs.Screen.Grid
import ConsoleReplay.Proofs.Screen.Inert
import ConsoleReplay.Proofs.Screen.Limits
import ConsoleReplay.Proofs.Screen.Numerals
import ConsoleReplay.Proofs.Screen.Operation
import ConsoleReplay.Proofs.Screen.Painting
import ConsoleReplay.Proofs.Screen.Printout
import ConsoleReplay.Proofs.Screen.Reading
import ConsoleReplay.Proofs.Screen.Recovery
import ConsoleReplay.Proofs.Screen.Registers
import ConsoleReplay.Proofs.Screen.Repaint
import ConsoleReplay.Proofs.Screen.Resumption
import ConsoleReplay.Proofs.Screen.Stored
import ConsoleReplay.Proofs.Screen.Styling
import ConsoleReplay.Proofs.Screen.WellFormed
import ConsoleReplay.Proofs.Screen.Window
import ConsoleReplay.Proofs.Screen.Wrapping
import ConsoleReplay.Proofs.Session.Classified
import ConsoleReplay.Proofs.Session.Codec
import ConsoleReplay.Proofs.Session.Conservation
import ConsoleReplay.Proofs.Session.Grouping
import ConsoleReplay.Proofs.Session.Order
import ConsoleReplay.Proofs.Session.Reporting
import ConsoleReplay.Proofs.Session.Runs
import ConsoleReplay.Proofs.Session.Summary
import ConsoleReplay.Proofs.Session.Supply
import ConsoleReplay.Proofs.Session.Tiling
import ConsoleReplay.Proofs.Session.Timing
import ConsoleReplay.Proofs.Source.BlankFront
import ConsoleReplay.Proofs.Source.Events
import ConsoleReplay.Proofs.Source.Rows
import ConsoleReplay.Proofs.Style.Parts
import ConsoleReplay.Proofs.Style.Runs
import ConsoleReplay.Proofs.Text.Lines
import ConsoleReplay.Proofs.Text.Utf8
import ConsoleReplay.Proofs.Text.Words
import ConsoleReplay.Proofs.Time.Elapsed
