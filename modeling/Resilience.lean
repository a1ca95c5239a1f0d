import Resilience.Json
import Resilience.Main
import Resilience.TestLog
import Resilience.Cluster.Routes
import Resilience.Cluster.Scripted
import Resilience.Proofs.Cluster.Answer
import Resilience.Proofs.Scenario.Frame
import Resilience.Proofs.Drain.Cordon
import Resilience.Proofs.Scenario.Log
import Resilience.Proofs.Drain.Course
import Resilience.Proofs.Drain.Abort
import Resilience.Proofs.Drain.Verdict
import Resilience.Proofs.Cluster.Store
import Resilience.Proofs.Fault.Teardown
import Resilience.Proofs.Yaml.Row
import Resilience.Proofs.Yaml.Step
import Resilience.Proofs.Yaml.Part
import Resilience.Proofs.Yaml.Block
import Resilience.Proofs.Text.Replace
import Resilience.Proofs.Yaml.Layout
import Resilience.Proofs.Fault.Filled
import Resilience.Proofs.Fault.BuiltIn
import Resilience.Proofs.Fault.Tokens
import Resilience.Proofs.Yaml.Member
import Resilience.Proofs.Fault.Objects
import Resilience.Proofs.Fault.Namespace
import Resilience.Proofs.Dict
import Resilience.Proofs.Decimal.Digits
import Resilience.Proofs.Binary64
import Resilience.Proofs.Json.Numeral
import Resilience.Proofs.Decimal.Shortest
import Resilience.Proofs.Json.Range
import Resilience.Proofs.Json.Number
import Resilience.Proofs.Json.Proper
import Resilience.Proofs.Json.Written
import Resilience.Proofs.Json.Typed
import Resilience.Proofs.Xml.Record
import Resilience.Proofs.Snapshot.Merge
import Resilience.Proofs.Snapshot.Claim
import Resilience.Proofs.Snapshot.Reload
import Resilience.Proofs.Xml.Nested
import Resilience.Proofs.Snapshot.Added
import Resilience.Proofs.Snapshot.Again
import Resilience.Proofs.Files
import Resilience.Proofs.Drain.Deletion
import Resilience.Proofs.Poll
import Resilience.Proofs.Scenario.Watch
import Resilience.Proofs.Cluster.Listing
import Resilience.Proofs.Fault.Completion
import Resilience.Proofs.Fault.Verdict
import Resilience.Proofs.Xml.Attributes
import Resilience.Proofs.Xml.Alike
import Resilience.Proofs.Xml.Depth
import Resilience.Proofs.Xml.Balance
import Resilience.Proofs.Snapshot.Cases
import Resilience.Proofs.Snapshot.Comparison
import Resilience.Proofs.Pace
import Resilience.Proofs.Settings.Origin
import Resilience.Proofs.Snapshot.Mirror
import Resilience.Proofs.Scenario.Agreement
import Resilience.Proofs.Fault.Run
import Resilience.Proofs.Fault.Cleanup
import Resilience.Proofs.Fault.Prefix
import Resilience.Proofs.Drain.Share
import Resilience.Proofs.Drain.Order
import Resilience.Proofs.Drain.Accounts
import Resilience.Proofs.Json.Whole
import Resilience.Proofs.Json.Lasting
import Resilience.Proofs.Snapshot.Unrelated
import Resilience.Proofs.Snapshot.Steps
import Resilience.Proofs.Report
import Resilience.Proofs.Fault.Code
import Resilience.Proofs.Poll.Script
import Resilience.Proofs.Poll.Quiet
import Resilience.Proofs.Scenario.Phase
import Resilience.Proofs.Command.Work
import Resilience.Proofs.Command.Status
import Resilience.Proofs.Settings.Refusal
import Resilience.Proofs.Duration.Amount
import Resilience.Proofs.Duration.Reread
import Resilience.Proofs.Text.Passes
import Resilience.Proofs.Fault.Verbatim
import Resilience.Proofs.Attempts
import Resilience.Proofs.Fault.Decoded
import Resilience.Proofs.Json.Compact
import Resilience.Proofs.TestLog
import Resilience.Cluster.Setup
import Resilience.Proofs.Cluster.Scripts
import Resilience.Proofs.Cluster.Reference
