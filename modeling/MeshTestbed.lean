import MeshTestbed.Cancellation
import MeshTestbed.Command.Basic
import MeshTestbed.Command.ClusterTool
import MeshTestbed.Command.Process
import MeshTestbed.Command.Tolerance
import MeshTestbed.CommandLine.Arguments
import MeshTestbed.CommandLine.Performance
import MeshTestbed.Condition.Basic
import MeshTestbed.Condition.Reading
import MeshTestbed.Config.Basic
import MeshTestbed.Config.Codec
import MeshTestbed.Config.Document
import MeshTestbed.Config.Planning
import MeshTestbed.Error
import MeshTestbed.Host.Files
import MeshTestbed.Host.Filters
import MeshTestbed.Host.Machine
import MeshTestbed.Host.Printf
import MeshTestbed.Host.Shell.Arithmetic
import MeshTestbed.Host.Shell.Builtin
import MeshTestbed.Host.Shell.Frame
import MeshTestbed.Host.Shell.Invocation
import MeshTestbed.Host.Shell.Lookup
import MeshTestbed.Host.Shell.Parameter
import MeshTestbed.Host.Shell.Redirection
import MeshTestbed.Host.Shell.Session
import MeshTestbed.Host.Shell.Word
import MeshTestbed.Host.Test
import MeshTestbed.Listing
import MeshTestbed.Json
import MeshTestbed.Json.Decode
import MeshTestbed.Json.Printer
import MeshTestbed.Json.Reader
import MeshTestbed.Main
import MeshTestbed.Path
import MeshTestbed.Plan.Basic
import MeshTestbed.Plan.Codec
import MeshTestbed.Plan.Staging
import MeshTestbed.Plan.Validation
import MeshTestbed.Pods
import MeshTestbed.Wait.Goal
import MeshTestbed.Wait.Ending
import MeshTestbed.Wait.Basic
import MeshTestbed.Rehearsal.Playbook
import MeshTestbed.Run.Event
import MeshTestbed.Run.Identifier
import MeshTestbed.Run.Testbed
import MeshTestbed.Run.Inventory
import MeshTestbed.Run.Sequence
import MeshTestbed.Run.Conductor
import MeshTestbed.Run.Session
import MeshTestbed.Run.Waiting
import MeshTestbed.Stage.Basic
import MeshTestbed.Stage.Kind
import MeshTestbed.Stage.Record
import MeshTestbed.Stage.Validation
import MeshTestbed.Text.Blank
import MeshTestbed.Text.Lines
import MeshTestbed.Text.Number
import MeshTestbed.Text.Search
import MeshTestbed.Text.Utf8
import MeshTestbed.Time.Span
import MeshTestbed.Time.Stamp
import MeshTestbed.Yaml
import MeshTestbed.Yaml.Cursor
import MeshTestbed.Yaml.Document
import MeshTestbed.Yaml.Scalar.Block
import MeshTestbed.Yaml.Scalar.Flow
import MeshTestbed.Yaml.Token
import MeshTestbed.Yaml.Token.Layout
import MeshTestbed.Proofs.Execution
import MeshTestbed.Proofs.Sequence.Commands
import MeshTestbed.Proofs.Sequence.Course
import MeshTestbed.Proofs.Sequence.Lag
import MeshTestbed.Proofs.Sequence.Report
import MeshTestbed.Proofs.Testbed.Accounting
import MeshTestbed.Proofs.Testbed.Install
import MeshTestbed.Proofs.Testbed.Preview
import MeshTestbed.Proofs.Wait.Course
import MeshTestbed.Proofs.Wait.Timeline
import MeshTestbed.Proofs.Sequence.Status
import MeshTestbed.Proofs.Testbed.Episodes
import MeshTestbed.Proofs.Testbed.Verdict
import MeshTestbed.Proofs.Sequence.Cancellation
import MeshTestbed.Proofs.Testbed.Cancellation
import MeshTestbed.Proofs.Sequence.Faults
import MeshTestbed.Proofs.Text.Occurrence
import MeshTestbed.Proofs.Sequence.Absence
import MeshTestbed.Proofs.Sequence.Strictness
import MeshTestbed.Proofs.Testbed.Entry
import MeshTestbed.Proofs.Plan.Removal
import MeshTestbed.Proofs.Sequence.Events
import MeshTestbed.Proofs.Testbed.Trace
import MeshTestbed.Proofs.Stage.Validation
import MeshTestbed.Proofs.Plan.Removable
import MeshTestbed.Proofs.Plan.Selection
import MeshTestbed.Proofs.Sequence.Composition
import MeshTestbed.Proofs.Sequence.Vacancy
import MeshTestbed.Proofs.Testbed.Idempotence
import MeshTestbed.Proofs.Plan.Manifests
import MeshTestbed.Proofs.Condition.Reading
import MeshTestbed.Proofs.Condition.Demand
import MeshTestbed.Proofs.Likeness
import MeshTestbed.Proofs.Sequence.Credentials
import MeshTestbed.Proofs.Testbed.Credentials
import MeshTestbed.Proofs.Json.Text
import MeshTestbed.Proofs.Json.Record
import MeshTestbed.Proofs.Stage.Codec
import MeshTestbed.Proofs.Plan.Codec
import MeshTestbed.Proofs.Testbed.Codec
import MeshTestbed.Proofs.Wait.Window
import MeshTestbed.Proofs.Sequence.Diagnosis
import MeshTestbed.Proofs.Wait.Absence
import MeshTestbed.Proofs.Plan.Naming
import MeshTestbed.Proofs.Plan.Installable
import MeshTestbed.Proofs.Plan.Namespaces
import MeshTestbed.Proofs.Plan.Coverage
import MeshTestbed.Proofs.Condition.Extraction
import MeshTestbed.Proofs.Condition.RoundTrip
import MeshTestbed.Proofs.Condition.LastReport
import MeshTestbed.Proofs.Condition.Attainable
import MeshTestbed.Proofs.Config.Paths
import MeshTestbed.Proofs.Text.Words
import MeshTestbed.Proofs.Pods.Reading
import MeshTestbed.Proofs.Pods.Verdict
import MeshTestbed.Proofs.Pods.Coherence
import MeshTestbed.Proofs.Listing
import MeshTestbed.Proofs.Stage.Faults
import MeshTestbed.Proofs.Cancellation
import MeshTestbed.Proofs.Rehearsal
import MeshTestbed.Proofs.Layout
