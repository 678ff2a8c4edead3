import TypeRepair.Main
import TypeRepair.Program.Basic
import TypeRepair.Program.Rehearsal
import TypeRepair.Proofs.Diagnostic.Grouping
import TypeRepair.Proofs.Procedure.Path
import TypeRepair.Proofs.Repair.Course
import TypeRepair.Proofs.Repair.Stage
import TypeRepair.Proofs.Repair.Provenance
import TypeRepair.Proofs.Repair.Schedule
import TypeRepair.Proofs.Repair.Files
import TypeRepair.Proofs.Repair.Journal
import TypeRepair.Proofs.Repair.Drift
import TypeRepair.Proofs.Diagnostic.Parsing
import TypeRepair.Proofs.Patch.Instruction
import TypeRepair.Proofs.Repair.Alone
import TypeRepair.Proofs.Repair.Isolation
import TypeRepair.Proofs.Repair.Verdict
import TypeRepair.Proofs.Procedure.Extension
import TypeRepair.Proofs.Repair.Budget
import TypeRepair.Proofs.Host.Trace
import TypeRepair.Proofs.Procedure.Expression
import TypeRepair.Proofs.Report.Publication
import TypeRepair.Proofs.Program.Course
import TypeRepair.Proofs.Program.ExitStatus
import TypeRepair.Proofs.Json.Grammar
import TypeRepair.Proofs.Json.Reading
import TypeRepair.Proofs.Provider.Shape
import TypeRepair.Proofs.Provider.Reply
import TypeRepair.Proofs.Provider.Classification
import TypeRepair.Proofs.Text.Lines
import TypeRepair.Proofs.Diagnostic.Splitting
import TypeRepair.Proofs.Diagnostic.Printing
import TypeRepair.Proofs.Patch.Block
import TypeRepair.Proofs.Patch.Shape
import TypeRepair.Proofs.Repair.Bodies
import TypeRepair.Proofs.Repair.Fixpoint
import TypeRepair.Proofs.Disk.Shape
import TypeRepair.Proofs.Store.Site
import TypeRepair.Proofs.Repair.Attempt
import TypeRepair.Proofs.Store.Preview
import TypeRepair.Proofs.Store.DryRun
import TypeRepair.Proofs.Store.Client
import TypeRepair.Proofs.Repair.Rounds
import TypeRepair.Proofs.Repair.Log
import TypeRepair.Proofs.Repair.Results
import TypeRepair.Proofs.Repair.Blocks
import TypeRepair.Proofs.Provider.Choice
import TypeRepair.Proofs.Host.Twin
import TypeRepair.Proofs.Program.Secrecy
import TypeRepair.Proofs.Binary64.Nearest
import TypeRepair.Proofs.Gate.Positions
import TypeRepair.Proofs.Gate.Distance
import TypeRepair.Proofs.Gate.HalfTest
import TypeRepair.Proofs.Diagnostic.Grammar
import TypeRepair.Proofs.Diagnostic.Partition
import TypeRepair.Proofs.Diagnostic.Quotation
import TypeRepair.Proofs.Diagnostic.Streams
import TypeRepair.Proofs.Patch.Scan
import TypeRepair.Proofs.Patch.Pattern
import TypeRepair.Proofs.Provider.Presentation
import TypeRepair.Proofs.Provider.Restatement
import TypeRepair.Proofs.Patch.Recovery
import TypeRepair.Proofs.Repair.Echo
import TypeRepair.Proofs.Text.Number
import TypeRepair.Proofs.Text.Utf8
import TypeRepair.Proofs.Text.Decoding
import TypeRepair.Proofs.Json.Writing
import TypeRepair.Proofs.Disk.Writing
import TypeRepair.Proofs.Disk.Resolution
import TypeRepair.Proofs.Disk.Reading
import TypeRepair.Proofs.Report.Files
import TypeRepair.Proofs.Report.Text
import TypeRepair.Proofs.Report.Data
import TypeRepair.Proofs.Settings.Precedence
