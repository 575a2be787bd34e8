import TaskDispatch.Action.Store
import TaskDispatch.Error.Cause
import TaskDispatch.Isolation.Parameters
import TaskDispatch.Task

/-!
# Procedures

A procedure says what an execution asks of its surroundings, one request after the other, and how
it goes on after each answer.  It is a tree of data: `run` answers all requests in order from one
state, and the steps of several procedures can just as well be interleaved.

The requests are those that matter to others: looking a task type up, taking and releasing the
project lock, running a declared body, reading the live parameters, creating and running an isolated
action, recording a completed action, and reporting an event.
-/

namespace TaskDispatch

open TaskDispatch.Text

/-- A task with what its execution needs to know of it. -/
structure ConfiguredTask (Body Parameters : Type) where
  task : Task
  type : TaskType Body
  parameters : Option (IsolatedParameters Parameters)

namespace ConfiguredTask

variable {Body Parameters : Type}

/-- The path of the task. -/
def path (configured : ConfiguredTask Body Parameters) : String := configured.task.path

/-- The task as diagnostics show it, its identity replaced by `identity`. -/
def inspect
    (identity : String)
    (dependencies : Nat)
    (configured : ConfiguredTask Body Parameters) :
    String :=
  recordForm "TaskNode"
    [ ("id", callForm "TaskId" [identity]), ("path", quoted configured.path),
      ("task_type", quoted configured.type.name),
      ("dependency_count", toString dependencies),
      ("isolated", boolForm configured.parameters.isSome) ]

end ConfiguredTask

/-- How user code ended. -/
inductive Outcome where
  | succeeded
  | failed (cause : Cause)
  | panicked
deriving DecidableEq, Repr

/-- What is asked, and what is done with the answer. -/
inductive Procedure (Body Parameters Result : Type) where
  /-- Nothing more is asked. -/
  | done (result : Result)
  /-- Report an event. -/
  | report (event : Event) (next : Procedure Body Parameters Result)
  /-- Look a task type up. -/
  | classInfo
      (type : TaskType Body)
      (next : ClassInfoResult Body → Procedure Body Parameters Result)
  /-- Take the project lock. -/
  | acquire (next : Procedure Body Parameters Result)
  /-- Release the project lock. -/
  | release (next : Procedure Body Parameters Result)
  /-- Run the body of a declared method on a task. -/
  | invoke
      (method : ActionMethod Body)
      (target : ConfiguredTask Body Parameters)
      (inputs : Option IncrementalInputs)
      (next : Outcome → Procedure Body Parameters Result)
  /-- Read the live parameters. -/
  | snapshot
      (parameters : IsolatedParameters Parameters)
      (next : Json → Procedure Body Parameters Result)
  /-- Create an isolated action. -/
  | create
      (action : IsolatedAction Parameters)
      (parameters : Parameters)
      (next : Outcome → Procedure Body Parameters Result)
  /-- Run an isolated action that has been created. -/
  | perform
      (action : IsolatedAction Parameters)
      (parameters : Parameters)
      (next : Outcome → Procedure Body Parameters Result)
  /-- Record a completed action in the project. -/
  | record (task action : String) (next : Procedure Body Parameters Result)

/-- How the surroundings answer requests, as functions of their state. -/
structure Host (Body Parameters State : Type) where
  report : Event → State → State
  classInfo : TaskType Body → State → ClassInfoResult Body × State
  acquire : State → State
  release : State → State
  invoke :
    ActionMethod Body → ConfiguredTask Body Parameters → Option IncrementalInputs → State →
      Outcome × State
  snapshot : IsolatedParameters Parameters → State → Json
  create : IsolatedAction Parameters → Parameters → State → Outcome × State
  perform : IsolatedAction Parameters → Parameters → State → Outcome × State
  record : String → String → State → State

namespace Procedure

variable {Body Parameters Result State : Type}

/-- Answers every request in order. -/
def run
    (host : Host Body Parameters State) :
    Procedure Body Parameters Result → State → Result × State
  | .done result, state => (result, state)
  | .report event next, state => run host next (host.report event state)
  | .classInfo type next, state =>
      let answer := host.classInfo type state
      run host (next answer.1) answer.2
  | .acquire next, state => run host next (host.acquire state)
  | .release next, state => run host next (host.release state)
  | .invoke method target inputs next, state =>
      let answer := host.invoke method target inputs state
      run host (next answer.1) answer.2
  | .snapshot parameters next, state =>
      run host (next (host.snapshot parameters state)) state
  | .create action parameters next, state =>
      let answer := host.create action parameters state
      run host (next answer.1) answer.2
  | .perform action parameters next, state =>
      let answer := host.perform action parameters state
      run host (next answer.1) answer.2
  | .record task action next, state => run host next (host.record task action state)

end Procedure

end TaskDispatch
