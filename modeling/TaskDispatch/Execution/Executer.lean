import TaskDispatch.Configuration
import TaskDispatch.Execution.Procedure

/-!
# Execution of a task

An execution looks the type of its task up, takes the project lock, and runs the actions of the type
in order up to the first that does not succeed, recording each that does.  The lock is held all the
time, except while an isolated action is created and run.

The parameters of an isolated action are read and materialized while the lock is still held, so the
action sees the live parameters as they stood at that moment.
-/

namespace TaskDispatch

/-- What an execution came to. -/
structure ExecutionOutcome where
  task : String
  /-- The names of the actions that ran, in order. -/
  actions : List String
  /-- Whether the type of the task has an incremental action. -/
  incremental : Bool
deriving DecidableEq, Repr

/-- How an execution ended. -/
inductive Completion where
  | finished (outcome : ExecutionOutcome)
  | failed (error : DispatchError)
  /-- User code panicked. -/
  | panicked
deriving DecidableEq, Repr

/-- How a single action ended. -/
inductive ActionResult where
  | succeeded
  | failed (error : ExecutionError)
  | panicked
deriving DecidableEq, Repr

namespace ActionFactory

variable {Body Parameters Result : Type}

/-- The result of a declared body. -/
def bodyResult (task action : String) : Outcome → ActionResult
  | .succeeded => .succeeded
  | .failed cause => .failed (.actionFailed task action cause)
  | .panicked => .panicked

/-- The event of running an isolated action. -/
def running (task action : String) : Event :=
  ⟨.debug, "Running isolated action without project lock",
    [("task", .text task), ("action_type", .text action)]⟩

/-- Creates an isolated action and runs it, without the project lock. -/
def runUnlocked
    (task name : String)
    (action : IsolatedAction Parameters)
    (parameters : Parameters)
    (next : ActionResult → Procedure Body Parameters Result) :
    Procedure Body Parameters Result :=
  .release <| .create action parameters fun
    | .succeeded => .perform action parameters fun outcome =>
        .acquire (next (bodyResult task name outcome))
    | .failed cause => .acquire (next (.failed (.instantiation task action.name cause)))
    | .panicked => .acquire (next .panicked)

/-- Runs the action of a factory on a task, with the project lock held before and after. -/
def attempt
    (configured : ConfiguredTask Body Parameters)
    (inputs : Option IncrementalInputs)
    (factory : ActionFactory Body)
    (next : ActionResult → Procedure Body Parameters Result) :
    Procedure Body Parameters Result :=
  match factory with
  | .standard _ method =>
      .invoke method configured none fun outcome =>
        next (bodyResult configured.path factory.displayName outcome)
  | .incremental _ method =>
      match inputs with
      | none => next (.failed (.missingInputs configured.path))
      | some inputs =>
          .invoke method configured (some inputs) fun outcome =>
            next (bodyResult configured.path factory.displayName outcome)
  | .isolated _ =>
      match configured.parameters with
      | none => next (.failed (.notIsolatable configured.path))
      | some parameters =>
          .snapshot parameters fun values =>
            match parameters.action.materialize values with
            | .refused cause => next (.failed (.isolation configured.path cause))
            | .panicked => next .panicked
            | .decoded materialized =>
                .report (running configured.path parameters.action.name)
                  (runUnlocked configured.path factory.displayName parameters.action materialized
                    next)

end ActionFactory

namespace Executer

variable {Body Parameters : Type}

/-- The event of starting an action. -/
def executing (task : String) (factory : ActionFactory Body) : Event :=
  ⟨.debug, "Executing action",
    [ ("task", .text task), ("action", .text factory.displayName),
      ("kind", .text factory.kind.name) ]⟩

/-- The event of an action that failed. -/
def actionFailed (task action : String) : Event :=
  ⟨.error, "Task action failed", [("task", .text task), ("action", .text action)]⟩

/-- The event of an execution in which every action succeeded. -/
def executed (task : String) (count : Nat) : Event :=
  ⟨.info, "Task executed", [("task", .text task), ("actions", .count count)]⟩

/-- The inputs that the actions are given. -/
def effectiveInputs
    (settings : ExecutionSettings)
    (info : ClassInfo Body)
    (inputs : Option IncrementalInputs) :
    Option IncrementalInputs :=
  match inputs with
  | some inputs => some inputs
  | none =>
      if info.incremental && settings.rebuildWhenInputsMissing then some .rebuild else none

/-- Runs the actions that are left, after those in `done`, and releases the lock. -/
def runActions
    (configured : ConfiguredTask Body Parameters)
    (inputs : Option IncrementalInputs)
    (incremental : Bool) :
    List String → List (ActionFactory Body) → Procedure Body Parameters Completion
  | done, [] =>
      .release <| .report (executed configured.path done.length) <|
        .done (.finished ⟨configured.path, done, incremental⟩)
  | done, factory :: factories =>
      .report (executing configured.path factory) <|
        factory.attempt configured inputs fun
          | .succeeded =>
              .record configured.path factory.displayName
                (runActions configured inputs incremental (done ++ [factory.displayName]) factories)
          | .failed error =>
              .report (actionFailed configured.path factory.displayName) <|
                .release (.done (.failed (.execution error)))
          | .panicked => .release (.done .panicked)

/-- Executes a task. -/
def execute
    (settings : ExecutionSettings)
    (configured : ConfiguredTask Body Parameters)
    (inputs : Option IncrementalInputs) :
    Procedure Body Parameters Completion :=
  .classInfo configured.type fun
    | .error error => .done (.failed (.metadata error))
    | .ok info =>
        .acquire
          (runActions configured (effectiveInputs settings info inputs) info.incremental []
            info.factories)

end Executer

/-- What a worker that executes a task reports.  A panic becomes an internal error, whose text ends
with what the runtime has to say of the worker. -/
def Completion.report (notice : String) : Completion → Except DispatchError ExecutionOutcome
  | .finished outcome => .ok outcome
  | .failed error => .error error
  | .panicked => .error (.internal ("Task execution worker failed: " ++ notice))

end TaskDispatch
