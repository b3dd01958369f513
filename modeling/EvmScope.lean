import EvmScope.Artifact.Contract
import EvmScope.Artifact.Document
import EvmScope.Artifact.Selection
import EvmScope.Bytecode.Code
import EvmScope.Bytecode.Decoding
import EvmScope.Bytecode.Mnemonic
import EvmScope.Bytecode.Stats
import EvmScope.Clock
import EvmScope.CommandLine.Execution
import EvmScope.CommandLine.GasListing
import EvmScope.CommandLine.Grammar
import EvmScope.CommandLine.Invocation
import EvmScope.CommandLine.Manuals
import EvmScope.CommandLine.StateListing
import EvmScope.Event
import EvmScope.Fault
import EvmScope.File
import EvmScope.Gas.Cost
import EvmScope.Gas.Pattern
import EvmScope.Gas.Severity
import EvmScope.Gas.Usage
import EvmScope.Hotspot.Attribution
import EvmScope.Hotspot.Basic
import EvmScope.Hotspot.Report
import EvmScope.Hotspot.Runtime
import EvmScope.Json.Literal
import EvmScope.Json.Reader
import EvmScope.Json.Value
import EvmScope.Json.Writer
import EvmScope.Log.Level
import EvmScope.Log.Record
import EvmScope.Main
import EvmScope.Number.Binary64
import EvmScope.Number.Notation
import EvmScope.Proofs.Artifact.Refusal
import EvmScope.Proofs.Bytecode.Concatenation
import EvmScope.Proofs.Bytecode.Cut
import EvmScope.Proofs.Bytecode.Hexadecimal
import EvmScope.Proofs.Bytecode.Tiling
import EvmScope.Proofs.CommandLine.Refusal
import EvmScope.Proofs.CommandLine.StartPosition
import EvmScope.Proofs.File
import EvmScope.Proofs.Hotspot.Accounting
import EvmScope.Proofs.Hotspot.Attribution
import EvmScope.Proofs.Hotspot.Fault
import EvmScope.Proofs.Hotspot.Files
import EvmScope.Proofs.Hotspot.Gasless
import EvmScope.Proofs.Hotspot.Group
import EvmScope.Proofs.Hotspot.Insertion
import EvmScope.Proofs.Hotspot.Ranking
import EvmScope.Proofs.Hotspot.Report
import EvmScope.Proofs.Hotspot.Runtime
import EvmScope.Proofs.Hotspot.Telescope
import EvmScope.Proofs.Session.Analysis
import EvmScope.Proofs.Session.Loading
import EvmScope.Proofs.Session.Tours
import EvmScope.Proofs.Simulation.Agreement
import EvmScope.Proofs.Simulation.Argument
import EvmScope.Proofs.Simulation.Bounds
import EvmScope.Proofs.Simulation.Checking
import EvmScope.Proofs.Simulation.Commitment
import EvmScope.Proofs.Simulation.Failure
import EvmScope.Proofs.Simulation.Numbers
import EvmScope.Proofs.Simulation.Reporting
import EvmScope.Proofs.Simulation.Setter
import EvmScope.Proofs.Simulation.Transfer
import EvmScope.Proofs.Simulation.Writes
import EvmScope.Proofs.SourceMap.Inheritance
import EvmScope.Proofs.SourceMap.Order
import EvmScope.Proofs.SourceMap.Position
import EvmScope.Proofs.Storage.AppendOnly
import EvmScope.Proofs.Storage.Atomicity
import EvmScope.Proofs.Storage.Attribution
import EvmScope.Proofs.Storage.History
import EvmScope.Proofs.Storage.InStep
import EvmScope.Proofs.Storage.Keys
import EvmScope.Proofs.Storage.Layout
import EvmScope.Proofs.Storage.Loading
import EvmScope.Proofs.Storage.NormalForm
import EvmScope.Proofs.Storage.Projection
import EvmScope.Proofs.Storage.Reading
import EvmScope.Proofs.Storage.Recognition
import EvmScope.Proofs.Storage.Reconstruction
import EvmScope.Proofs.Storage.Recording
import EvmScope.Proofs.Storage.Replay
import EvmScope.Proofs.Storage.Simulated
import EvmScope.Proofs.Storage.Splitting
import EvmScope.Proofs.Storage.Word
import EvmScope.Proofs.Storage.Write
import EvmScope.Proofs.Text.Decimal
import EvmScope.Proofs.Text.Digit
import EvmScope.Proofs.Text.Newline
import EvmScope.Proofs.Text.Numeral
import EvmScope.Proofs.Text.Spelling
import EvmScope.Proofs.Text.Split
import EvmScope.Proofs.Text.Utf8
import EvmScope.Proofs.Tour
import EvmScope.Proofs.Trace.Accounting
import EvmScope.Proofs.Trace.Entry
import EvmScope.Proofs.Trace.Logs
import EvmScope.Proofs.Traversal
import EvmScope.Schema
import EvmScope.Session
import EvmScope.Settings.Basic
import EvmScope.Settings.EnvFile
import EvmScope.Settings.Sources
import EvmScope.Simulation.Abi
import EvmScope.Simulation.Argument
import EvmScope.Simulation.Call
import EvmScope.Simulation.Effect
import EvmScope.SourceMap.Mapping
import EvmScope.SourceMap.Position
import EvmScope.Storage.Change
import EvmScope.Storage.History
import EvmScope.Storage.Layout
import EvmScope.Storage.Projection
import EvmScope.Storage.Replay
import EvmScope.Storage.Word
import EvmScope.Table
import EvmScope.Text.Blank
import EvmScope.Text.CaseTable
import EvmScope.Text.Casing
import EvmScope.Text.CharSet
import EvmScope.Text.Digit
import EvmScope.Text.Newline
import EvmScope.Text.Numeral
import EvmScope.Text.PathName
import EvmScope.Text.Printable
import EvmScope.Text.Quoted
import EvmScope.Text.Search
import EvmScope.Text.Split
import EvmScope.Text.Style
import EvmScope.Text.Template
import EvmScope.Text.Utf8
import EvmScope.Tour
import EvmScope.Trace.Entry
import EvmScope.Trace.Parsed
import EvmScope.Transition
import EvmScope.Proofs.Artifact.Selection
import EvmScope.Proofs.Simulation.Range
import EvmScope.Proofs.SourceMap.Dropped
import EvmScope.Proofs.Storage.Signs
import EvmScope.Proofs.Json.Limit
import EvmScope.Proofs.CommandLine.Formats
import EvmScope.Proofs.Event
import EvmScope.Proofs.Simulation.Address
import EvmScope.Proofs.Storage.Signed
import EvmScope.Proofs.Storage.Inference
