import EventMachine.Binary64.Basic
import EventMachine.Binary64.Shortest
import EventMachine.Checksum
import EventMachine.Command
import EventMachine.CommandLine
import EventMachine.Compilation
import EventMachine.Description
import EventMachine.Device
import EventMachine.Draft
import EventMachine.EventTable
import EventMachine.File
import EventMachine.Filing
import EventMachine.Form
import EventMachine.IdList
import EventMachine.Json.Decoder
import EventMachine.Json.Defect
import EventMachine.Json.Document
import EventMachine.Json.Form
import EventMachine.Json.Node
import EventMachine.Json.Numeral
import EventMachine.Json.Token
import EventMachine.Machine
import EventMachine.Notice
import EventMachine.Performance
import EventMachine.Prompt
import EventMachine.Report
import EventMachine.Script
import EventMachine.Session
import EventMachine.Setup
import EventMachine.Style
import EventMachine.Summary
import EventMachine.Text.Blank
import EventMachine.Text.CharSet
import EventMachine.Text.Decimal
import EventMachine.Text.LowerCase
import EventMachine.Text.Printable
import EventMachine.Text.Quoted
import EventMachine.Validation
import EventMachine.Violation
import EventMachine.Yaml.Block
import EventMachine.Yaml.Document
import EventMachine.Yaml.Form
import EventMachine.Yaml.Glyph
import EventMachine.Yaml.Node
import EventMachine.Yaml.Plain
import EventMachine.Yaml.Quoted
import EventMachine.Yaml.Scalar
import EventMachine.Yaml.Tag
import EventMachine.Yaml.Token
import EventMachine.Yaml.Writer
import EventMachine.Main
import EventMachine.Proofs.Compilation.Assembly
import EventMachine.Proofs.Compilation.Bounds
import EventMachine.Proofs.Compilation.Calls
import EventMachine.Proofs.Compilation.Refinement
import EventMachine.Proofs.Description.Consistent
import EventMachine.Proofs.Description.Interpreter
import EventMachine.Proofs.Draft.Check
import EventMachine.Proofs.Draft.Denotation
import EventMachine.Proofs.Draft.FirstViolation
import EventMachine.Proofs.Draft.FrontEnds
import EventMachine.Proofs.Draft.Passes
import EventMachine.Proofs.Draft.Path
import EventMachine.Proofs.Draft.Records
import EventMachine.Proofs.Draft.RoundTrip
import EventMachine.Proofs.Draft.Shape
import EventMachine.Proofs.Draft.WellFormed
import EventMachine.Proofs.EventTable
import EventMachine.Proofs.Filing
import EventMachine.Proofs.FirstDuplicate
import EventMachine.Proofs.Json.Alike
import EventMachine.Proofs.Json.Canonical
import EventMachine.Proofs.Json.Compact
import EventMachine.Proofs.Json.Decoding
import EventMachine.Proofs.Json.Inverse
import EventMachine.Proofs.Json.Literal
import EventMachine.Proofs.Json.Members
import EventMachine.Proofs.Json.Reading
import EventMachine.Proofs.Json.Shape
import EventMachine.Proofs.Json.Spelling
import EventMachine.Proofs.Machine.Fleet
import EventMachine.Proofs.Machine.Isolation
import EventMachine.Proofs.Machine.Run
import EventMachine.Proofs.Description.Reachable
import EventMachine.Proofs.Description.Ignored
import EventMachine.Proofs.Machine.Independence
import EventMachine.Proofs.Report.JsonLines
import EventMachine.Proofs.Report.Printed
import EventMachine.Proofs.Session.Checking
import EventMachine.Proofs.Session.Compiling
import EventMachine.Proofs.Session.Devices
import EventMachine.Proofs.Session.Stopping
import EventMachine.Proofs.Session.Story
import EventMachine.Proofs.Description.Spelled
import EventMachine.Proofs.Script.Grammar
import EventMachine.Proofs.Script.Layout
import EventMachine.Proofs.Script.Line
import EventMachine.Proofs.Script.Reading
import EventMachine.Proofs.Prompt.Injection
import EventMachine.Proofs.Prompt.Journal
import EventMachine.Proofs.Text.ByteOrder
import EventMachine.Proofs.Text.Digits
import EventMachine.Proofs.Description.Devices
import EventMachine.Proofs.Description.Passage
import EventMachine.Proofs.Compilation.Introspection
import EventMachine.Proofs.Compilation.PublishedIds
