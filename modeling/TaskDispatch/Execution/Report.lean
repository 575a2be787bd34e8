import TaskDispatch.Execution.Executer
import TaskDispatch.Json.Reader

/-!
# Reports of executions

An outcome together with the time it took, as a document.
-/

namespace TaskDispatch

open TaskDispatch.Decimal

/-- An outcome and the time it took, in milliseconds. -/
structure ExecutionReport where
  outcome : ExecutionOutcome
  durationMs : Binary64
deriving DecidableEq, Repr

namespace ExecutionReport

/-- A report as a document. -/
def toJson (report : ExecutionReport) : Json :=
  .object
    [ ("task", .text report.outcome.task),
      ("actions", .ofTexts report.outcome.actions),
      ("incremental", .boolean report.outcome.incremental),
      ("duration_ms", .ofReal report.durationMs) ]

/-- The documents of reports. -/
def schema : Json.Schema :=
  .record "TaskExecutionOutcome"
    [ ("task", .refused, .text),
      ("actions", .refused, .list .text),
      ("incremental", .refused, .boolean),
      ("duration_ms", .refused, .real) ]

/-- The report that a document in plain form stands for. -/
def ofJson? : Json → Option ExecutionReport
  | .object
      [ ("task", .text task), ("actions", .array actions), ("incremental", .boolean incremental),
        ("duration_ms", duration) ] =>
      match actions.mapM Json.text?, duration.real? with
      | some actions, some durationMs => some ⟨⟨task, actions, incremental⟩, durationMs⟩
      | _, _ => none
  | _ => none

end ExecutionReport

end TaskDispatch
