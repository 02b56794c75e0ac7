import Conformance.Battery
import Conformance.Coverage.Gather
import Conformance.Coverage.Report
import Conformance.Disk
import Conformance.Entry
import Conformance.Failure
import Conformance.Graph.Basic
import Conformance.Graph.Closure
import Conformance.Inspect
import Conformance.Json.Magnitude
import Conformance.Json.Printer
import Conformance.Json.Reader
import Conformance.Json.Token
import Conformance.Json.Value
import Conformance.JsonForm.Basic
import Conformance.JsonForm.Entries
import Conformance.JsonForm.Settings
import Conformance.JsonForm.Suites
import Conformance.JsonForm.Types
import Conformance.Name
import Conformance.Observation
import Conformance.Producer.Basic
import Conformance.Producer.Handle
import Conformance.Proofs.Alike
import Conformance.Proofs.Assembly
import Conformance.Proofs.Batteries
import Conformance.Proofs.DiscoveryOrder
import Conformance.Proofs.DynamicBattery
import Conformance.Proofs.Exclusions
import Conformance.Proofs.History
import Conformance.Proofs.MalformedSuites
import Conformance.Proofs.Plans
import Conformance.Proofs.Reachability
import Conformance.Proofs.ReportedRefusals
import Conformance.Proofs.StaticBattery
import Conformance.Recorded
import Conformance.Registry
import Conformance.Resolution.Assembly
import Conformance.Resolution.Dynamic
import Conformance.Resolution.Plan
import Conformance.Run.Event
import Conformance.Run.Lifecycle
import Conformance.Run.Unit
import Conformance.Script
import Conformance.Settings.Basic
import Conformance.Settings.Load
import Conformance.Settings.Toml
import Conformance.Settings.Validation
import Conformance.SkipList
import Conformance.Sorted.Map
import Conformance.Sorted.Set
import Conformance.Suite.Basic
import Conformance.Text.Blank
import Conformance.Text.Combining
import Conformance.Text.Quoted
import Conformance.Text.Segments
import Conformance.Text.Unprintable
import Conformance.Toml.Reader
import Conformance.Toml.Scalar
import Conformance.Toml.Text
import Conformance.Toml.Value
import Conformance.Verdict
import Conformance.Proofs.Substitution
import Conformance.Proofs.Growth
import Conformance.Proofs.UnitRuns
import Conformance.Proofs.EventStream
import Conformance.Proofs.MissingProducer
import Conformance.Proofs.ProducerOwnership
import Conformance.Proofs.Inheritance
import Conformance.Proofs.Classification
import Conformance.Proofs.ReportedDefects
import Conformance.Proofs.CleanReports
import Conformance.Proofs.Isolation
import Conformance.Proofs.Unimplemented
import Conformance.Proofs.Untested
import Conformance.Proofs.DynamicReports
import Conformance.Proofs.FirstOccurrences
import Conformance.Proofs.SkipLists
import Conformance.Proofs.Loading
import Conformance.Proofs.Lookup
import Conformance.Proofs.JsonEdits
import Conformance.Proofs.PrintedJson
import Conformance.Proofs.NumberRange
import Conformance.Proofs.JsonForms
import Conformance.Proofs.SkipMerges
import Conformance.Proofs.ClosureWalks
import Conformance.Proofs.Lifecycles
import Conformance.Proofs.ReportTexts
import Conformance.Proofs.ValidSettings
import Conformance.Proofs.DefaultEdits
import Conformance.Proofs.Verdicts
import Conformance.Proofs.DefaultSettings
import Conformance.Proofs.BuildLogs
import Conformance.Proofs.NameParts
import Conformance.Proofs.Declarations
