import FormatEngine.Bytes
import FormatEngine.Terminated
import FormatEngine.Numeral
import FormatEngine.Binary64
import FormatEngine.Binary64.Arith
import FormatEngine.Room
import FormatEngine.Fixed
import FormatEngine.Scratch
import FormatEngine.Scratch.Fixed
import FormatEngine.Scratch.Checked
import FormatEngine.Argument
import FormatEngine.Error
import FormatEngine.Cursor
import FormatEngine.Config
import FormatEngine.Arena
import FormatEngine.Directive
import FormatEngine.Template
import FormatEngine.Sink
import FormatEngine.Printf
import FormatEngine.Printf.Checked
import FormatEngine.Binary64.Decimal
import FormatEngine.Binary64.Shortest
import FormatEngine.Text.Escapes
import FormatEngine.Json
import FormatEngine.Json.Printer
import FormatEngine.Json.Reader
import FormatEngine.Demo
import FormatEngine.Bench
import FormatEngine.Text.Integer
import FormatEngine.Diff
import FormatEngine.Fixture.Arg
import FormatEngine.Cli.Render
import FormatEngine.Json.Decode
import FormatEngine.IoError
import FormatEngine.Fixture.Case
import FormatEngine.Fixture.Decode
import FormatEngine.Fixture.Encode
import FormatEngine.Text.Utf8
import FormatEngine.Runner
import FormatEngine.Log.Entry
import FormatEngine.Log.Emitter
import FormatEngine.Log.Validate
import FormatEngine.Log.Run
import FormatEngine.Cli.SystemTree
import FormatEngine.Cli.Files
import FormatEngine.Cli.Similar
import FormatEngine.Cli.Spec
import FormatEngine.Cli.Parse
import FormatEngine.Cli.Run
import FormatEngine.Main
import FormatEngine.Proofs.TextLength
import FormatEngine.Proofs.ScratchRoom
import FormatEngine.Proofs.Rendering
import FormatEngine.Proofs.ArenaRuns
import FormatEngine.Proofs.MinScratch
import FormatEngine.Proofs.ScratchContents
import FormatEngine.Proofs.CanonicalNumerals
import FormatEngine.Proofs.FixedPointText
import FormatEngine.Proofs.CheckedConverters
import FormatEngine.Proofs.CompactText
import FormatEngine.Proofs.JsonReadBack
import FormatEngine.Proofs.MemberMaps
import FormatEngine.Proofs.LogLineRoundTrip
import FormatEngine.Proofs.LoggedRuns
import FormatEngine.Proofs.DirectiveGrammar
import FormatEngine.Proofs.ConversionOutcomes
import FormatEngine.Proofs.PaddedSign
import FormatEngine.Proofs.FieldLayout
import FormatEngine.Proofs.WriteSequence
import FormatEngine.Proofs.Verdicts
import FormatEngine.Proofs.Calendar
import FormatEngine.Proofs.TextReversal
import FormatEngine.Proofs.ArgumentTakes
import FormatEngine.Proofs.DiffReport
import FormatEngine.Proofs.Totality
