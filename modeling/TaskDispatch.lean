import TaskDispatch.Action.ClassInfo
import TaskDispatch.Action.Inputs
import TaskDispatch.Action.Store
import TaskDispatch.Action.TaskType
import TaskDispatch.Configuration
import TaskDispatch.Decimal.Binary64
import TaskDispatch.Decimal.Shortest
import TaskDispatch.Error.Cause
import TaskDispatch.Error.Diagnostic
import TaskDispatch.Error.Execution
import TaskDispatch.Error.Metadata
import TaskDispatch.Error.Unsupported
import TaskDispatch.Execution.Executer
import TaskDispatch.Execution.Procedure
import TaskDispatch.Execution.Project
import TaskDispatch.Execution.Report
import TaskDispatch.Identity
import TaskDispatch.Isolation.NativeValue
import TaskDispatch.Isolation.Parameters
import TaskDispatch.Isolation.Services
import TaskDispatch.Json.Basic
import TaskDispatch.Json.Decoder
import TaskDispatch.Json.Lexer
import TaskDispatch.Json.Pointer
import TaskDispatch.Json.Problem
import TaskDispatch.Json.Reader
import TaskDispatch.Json.Schema
import TaskDispatch.Json.Writer
import TaskDispatch.Observation.Event
import TaskDispatch.Observation.Span
import TaskDispatch.Resolution.Context
import TaskDispatch.Resolution.Declaration
import TaskDispatch.Resolution.Resolver
import TaskDispatch.Scenario.Actions
import TaskDispatch.Scenario.Answer
import TaskDispatch.Scenario.Expression
import TaskDispatch.Scenario.LockScript
import TaskDispatch.Scenario.Reading
import TaskDispatch.Scenario.Running
import TaskDispatch.Scenario.State
import TaskDispatch.Scenario.Steps
import TaskDispatch.Task
import TaskDispatch.Text.Blank
import TaskDispatch.Text.Combining
import TaskDispatch.Text.Dictionary
import TaskDispatch.Text.Inspection
import TaskDispatch.Text.Quoted
import TaskDispatch.Text.Unassigned
import TaskDispatch.Text.Visible
import TaskDispatch.Proofs.Resolution.Calls
import TaskDispatch.Proofs.Resolution.Walk
import TaskDispatch.Proofs.Resolution.Visits
import TaskDispatch.Proofs.Resolution.Closure
import TaskDispatch.Proofs.Resolution.Answers
import TaskDispatch.Proofs.Resolution.Unfolding
import TaskDispatch.Proofs.Resolution.SelfDependency
import TaskDispatch.Proofs.Resolution.Chronicle
import TaskDispatch.Proofs.Resolution.Failures
import TaskDispatch.Proofs.Resolution.WithoutFailures
import TaskDispatch.Proofs.Resolution.Tour
import TaskDispatch.Proofs.Resolution.Siblings
import TaskDispatch.Proofs.Resolution.Invariants
import TaskDispatch.Proofs.Resolution.Log
import TaskDispatch.Proofs.Resolution.Expectation
import TaskDispatch.Proofs.Action.Search
import TaskDispatch.Proofs.Action.EffectiveMethods
import TaskDispatch.Proofs.Action.FirstViolation
import TaskDispatch.Proofs.Action.Memo
import TaskDispatch.Proofs.Action.SharedStore
import TaskDispatch.Proofs.Action.OpenLookups
import TaskDispatch.Proofs.Action.BetweenRemovals
import TaskDispatch.Proofs.Execution.Duty
import TaskDispatch.Proofs.Execution.CompletedLog
import TaskDispatch.Proofs.Execution.Course
import TaskDispatch.Proofs.Execution.Handover
import TaskDispatch.Proofs.Execution.InputDelivery
import TaskDispatch.Proofs.Execution.Refusal
import TaskDispatch.Proofs.Execution.Snapshot
import TaskDispatch.Proofs.Execution.Prospect
import TaskDispatch.Proofs.Execution.Batch
import TaskDispatch.Proofs.Execution.BatchCourse
import TaskDispatch.Proofs.Execution.BatchReports
import TaskDispatch.Proofs.Execution.Traffic
import TaskDispatch.Proofs.Execution.InvalidTypes
import TaskDispatch.Proofs.Execution.Log
import TaskDispatch.Proofs.Isolation.ParameterSets
import TaskDispatch.Proofs.Configuration.Overrides
import TaskDispatch.Proofs.Json.Grammar
import TaskDispatch.Proofs.Json.Tokens
import TaskDispatch.Proofs.Json.Skipping
import TaskDispatch.Proofs.Json.Readers
import TaskDispatch.Proofs.Json.Writers
import TaskDispatch.Proofs.Json.PartialConfiguration
import TaskDispatch.Proofs.Json.RoundTrip
