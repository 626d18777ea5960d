import TestSynth.Config.Document
import TestSynth.Config.Json
import TestSynth.Config.Properties
import TestSynth.Json.Printer
import TestSynth.Json.Reader
import TestSynth.Method.Declaration
import TestSynth.Method.Json
import TestSynth.Synthesis.Engine
import TestSynth.TestCase.Key
import TestSynth.Proofs.Engine.Capture
import TestSynth.Proofs.Engine.Recording
import TestSynth.Proofs.Fault.Propagation
import TestSynth.Proofs.Report.Rendering
import TestSynth.Proofs.Resolution.Reading
import TestSynth.Proofs.Resolution.Settling
import TestSynth.Proofs.TestCase.Binding
import TestSynth.Proofs.TestCase.Collecting
import TestSynth.Proofs.TestCase.Typing
import TestSynth.Proofs.Engine.Attribution
import TestSynth.Proofs.Engine.Handling
import TestSynth.Proofs.Engine.Session
import TestSynth.Proofs.Engine.Safety
import TestSynth.Proofs.Engine.Replay
import TestSynth.Proofs.Engine.Agreement
import TestSynth.Proofs.TestCase.Arrival
import TestSynth.Proofs.Engine.Integrity
import TestSynth.Proofs.Engine.Accounting
import TestSynth.Proofs.Resolution.Defaults
import TestSynth.Proofs.Resolution.Confinement
import TestSynth.Proofs.Engine.Completion
import TestSynth.Proofs.TestCase.Reordering
import TestSynth.Proofs.Engine.Reordering
import TestSynth.Proofs.Text.Lines
import TestSynth.Proofs.Text.Reading
import TestSynth.Proofs.Report.Indentation
import TestSynth.Proofs.Report.Writing
import TestSynth.Proofs.Report.SingleLines
import TestSynth.Proofs.Report.Concatenation
import TestSynth.Proofs.Report.LiteralReading
import TestSynth.Proofs.Report.Exactness
import TestSynth.Proofs.Report.Decoding
import TestSynth.Proofs.Report.TestMethods
import TestSynth.Proofs.Method.Declaring
import TestSynth.Proofs.Engine.Tracking
import TestSynth.Proofs.Engine.Pruning
import TestSynth.Proofs.Engine.Independence
import TestSynth.Proofs.Report.Numbering
import TestSynth.Proofs.Report.Delivery
import TestSynth.Proofs.Report.History
import TestSynth.Proofs.Report.Locals
import TestSynth.Proofs.Decimal.Intervals
import TestSynth.Proofs.Decimal.Rounding
import TestSynth.Proofs.Json.Digits
import TestSynth.Proofs.Json.Numerals
import TestSynth.Proofs.Json.Strings
import TestSynth.Proofs.Json.RoundTrip
import TestSynth.Proofs.Report.Scenarios
import TestSynth.Proofs.Descriptor.Grammar
import TestSynth.Proofs.Method.Overloads
import TestSynth.Proofs.TestCase.Construction
import TestSynth.Proofs.Snapshot.Ranges
import TestSynth.Proofs.Resolution.Verdicts
import TestSynth.Proofs.Engine.Classification
import TestSynth.Proofs.TestCase.Fingerprint
import TestSynth.Proofs.Report.Narrowing
import TestSynth.Proofs.Report.Messages
import TestSynth.Proofs.Report.Dialects
import TestSynth.Proofs.Json.Nesting
import TestSynth.Proofs.Report.Assembly
import TestSynth.Proofs.Report.PlainWriting
import TestSynth.Proofs.Report.StreamFailures
import TestSynth.Proofs.Config.Options
import TestSynth.Proofs.Engine.Warnings
import TestSynth.Proofs.Method.Parameters
import TestSynth.Proofs.Report.Registries
