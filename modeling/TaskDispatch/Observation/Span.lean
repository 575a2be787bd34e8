import TaskDispatch.Json.Reader

/-!
# Attributes of an execution

The attributes recorded with one execution of a task, flat under dotted names for tracing tools,
and as a document of all fields.
-/

namespace TaskDispatch

open TaskDispatch.Decimal
open TaskDispatch.Text

/-- Attributes of the execution of a task. -/
structure SpanAttributes where
  taskPath : String
  taskType : Option String
  actions : Option Nat
  incremental : Option Bool
  status : Option String
  durationMs : Option Binary64
  error : Option String
deriving DecidableEq, Repr

namespace SpanAttributes

/-- Attributes of which only the task is known. -/
def ofPath (path : String) : SpanAttributes := ⟨path, none, none, none, none, none, none⟩

/-- Numbers in attributes are written in full, without an exponent and without a fraction if they
are whole. -/
def numberLayout : Layout where
  tie := .upward
  positionalFrom := none
  positionalBelow := none
  showsFraction := false
  signsExponent := false
  nan := "NaN"
  infinity := "inf"

/-- An attribute that is left out if its value is absent. -/
def entry (name : String) : Option String → List (String × String)
  | none => []
  | some value => [(name, value)]

/-- The attributes that are known, under dotted names. -/
def flat (attributes : SpanAttributes) : List (String × String) :=
  [("task.path", attributes.taskPath)] ++
  entry "task.type" attributes.taskType ++
  entry "task.actions" (attributes.actions.map toString) ++
  entry "task.incremental" (attributes.incremental.map boolForm) ++
  entry "task.status" attributes.status ++
  entry "task.duration_ms" (attributes.durationMs.map numberLayout.number) ++
  entry "task.error" attributes.error

/-- A value that may be absent as a document. -/
def orNull {Value : Type} (encode : Value → Json) : Option Value → Json
  | none => .null
  | some value => encode value

/-- Attributes as a document of all fields. -/
def toJson (attributes : SpanAttributes) : Json :=
  .object
    [ ("task_path", .text attributes.taskPath),
      ("task_type", .ofText? attributes.taskType),
      ("actions", orNull .ofNat attributes.actions),
      ("incremental", orNull .boolean attributes.incremental),
      ("status", .ofText? attributes.status),
      ("duration_ms", orNull .ofReal attributes.durationMs),
      ("error", .ofText? attributes.error) ]

/-- The documents of attributes. -/
def schema : Json.Schema :=
  .record "TaskSpanAttributes"
    [ ("task_path", .refused, .text),
      ("task_type", .null, .nullable .text),
      ("actions", .null, .nullable .count),
      ("incremental", .null, .nullable .boolean),
      ("status", .null, .nullable .text),
      ("duration_ms", .null, .nullable .real),
      ("error", .null, .nullable .text) ]

/-- The attributes that a document in plain form stands for. -/
def ofJson? : Json → Option SpanAttributes
  | .object
      [ ("task_path", .text path), ("task_type", taskType), ("actions", actions),
        ("incremental", incremental), ("status", status), ("duration_ms", duration),
        ("error", error) ] =>
      some
        { taskPath := path
          taskType := taskType.text?
          actions := actions.integer?.map Int.toNat
          incremental := incremental.boolean?
          status := status.text?
          durationMs := duration.real?
          error := error.text? }
  | _ => none

end SpanAttributes

end TaskDispatch
