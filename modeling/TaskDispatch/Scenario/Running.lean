import TaskDispatch.Scenario.Answer
import TaskDispatch.Scenario.State

/-!
# Running user code

How scripted bodies and isolated actions change a scenario, and the host that answers the requests
of an execution.  An operation may execute another task; at most three such executions are nested in
each other.
-/

namespace TaskDispatch.Scenario

/-- What a body is given. -/
structure Surroundings where
  task : Option Task
  inputs : Option IncrementalInputs

/-- How an operation executes a task, unless too many executions are nested already. -/
abbrev NestedExecution := Option (ExecuterSetup → ScenarioTask → State → Completion × State)

/-- The outcome of an operation and the state afterwards. -/
abbrev OperationResult := Outcome × State

namespace State

/-- Appends an entry to the log. -/
def logged (state : State) (entry : Json) : OperationResult :=
  (.succeeded, { state with log := state.log ++ [entry] })

/-- Records a completed action if the lock is free. -/
def tryRecord (state : State) (lock task action : String) : OperationResult :=
  if (state.project lock).locked then state.logged (.text "busy")
  else (state.onProject lock fun project => project.record task action).logged (.text "recorded")

/-- Logs how a nested execution ended; a panic goes on in the body that started it. -/
def logCompletion (state : State) : Completion → OperationResult
  | .finished outcome => state.logged (.ofTexts outcome.actions)
  | .failed error => state.logged (.ofAnswer error.answer)
  | .panicked => (.panicked, state)

/-- Executes a task from within a body. -/
def executeNested
    (state : State)
    (nested : NestedExecution)
    (executer task : Name) :
    OperationResult :=
  match state.executers.find? executer, state.tasks.find? task with
  | some setup, some target =>
      if (state.project setup.lock).locked then state.logged (.text "busy")
      else
        match nested with
        | none => state.logged (.text "too deep")
        | some execution =>
            let (completion, state) := execution setup target state
            state.logCompletion completion
  | _, _ => (.succeeded, state)

/-- Sets a member of the live graph of parameters. -/
def setParameter (state : State) (name : Name) (key : String) (value : Json) : State :=
  match state.parameters.find? name with
  | none => state
  | some parameters =>
      state.setGraph parameters.graph (LiveGraph.set key value (state.graph parameters.graph))

/-- Logs the number of actions of a type, or the code of its error. -/
def logInfo (state : State) (store type : Name) : OperationResult :=
  match state.type? type with
  | none => (.succeeded, state)
  | some type =>
      let (found, state) := state.lookup store type
      match found.result with
      | .ok info => state.logged (.ofNat info.factories.length)
      | .error error => state.logged (.text error.code)

/-- Takes a type out of a store and logs whether it was there. -/
def logEvict (state : State) (store type : Name) : OperationResult :=
  match state.type? type with
  | none => (.succeeded, state)
  | some type =>
      let (evicted, rest) := (state.store store).evict type.identity
      (state.setStore store rest).logged (.boolean evicted)

/-- Removes the declared dependencies of a task and logs how many there were. -/
def logClear (state : State) (task : Name) : OperationResult :=
  match state.task? task with
  | none => (.succeeded, state)
  | some target =>
      (state.setDependencies target.identity []).logged
        (.ofNat (state.dependenciesOf target.identity).length)

/-- Declares a dependency of a task. -/
def declareDependency (state : State) (task : Name) (value : Expression) : State :=
  match state.task? task with
  | none => state
  | some target =>
      let (declaration, state) := state.declaration value
      state.declareOn target.identity [declaration]

/-- Runs one operation. -/
def operate
    (nested : NestedExecution)
    (surroundings : Surroundings)
    (state : State) :
    Operation → OperationResult
  | .log value => state.logged value
  | .path => state.logged (.ofText? (surroundings.task.map Task.path))
  | .inputs =>
      state.logged ((surroundings.inputs.map fun inputs => inputs.toJson.held).getD .null)
  | .ofKind kind =>
      state.logged
        (match surroundings.inputs with
        | none => .null
        | some inputs => .ofTexts ((inputs.ofKind kind).map InputChange.path))
  | .fail cause => (.failed cause, state)
  | .panic => (.panicked, state)
  | .locked lock => state.logged (.boolean (state.project lock).locked)
  | .record lock task action => state.tryRecord lock task action
  | .execute executer task => state.executeNested nested executer task
  | .set parameters key value => (.succeeded, state.setParameter parameters key value)
  | .dependsOn task value => (.succeeded, state.declareDependency task value)
  | .clear task => state.logClear task
  | .info store type => state.logInfo store type
  | .evict store type => state.logEvict store type

/-- Runs operations in order, up to the first that does not succeed. -/
def operateAll
    (nested : NestedExecution)
    (surroundings : Surroundings)
    (state : State) :
    List Operation → OperationResult
  | [] => (.succeeded, state)
  | operation :: operations =>
      match state.operate nested surroundings operation with
      | (.succeeded, state) => operateAll nested surroundings state operations
      | (outcome, state) => (outcome, state)

/-- The note of a method that ran. -/
def note (body : Body) (task : Task) (inputs : Option IncrementalInputs) : String :=
  let detail :=
    match inputs with
    | none => ""
    | some inputs =>
        if inputs.incremental then "(" ++ toString inputs.changes.length ++ ")" else "(rebuild)"
  task.path ++ ":" ++ body.label ++ detail

/-- Appends a note. -/
def noted (state : State) (entry : String) : State := { state with notes := state.notes ++ [entry] }

/-- Runs the body of a method.  A body that takes inputs rebuilds everything if it is given none; a
body that takes none does not see those it is given. -/
def invoke
    (nested : NestedExecution)
    (method : ActionMethod Body)
    (target : ScenarioTask)
    (inputs : Option IncrementalInputs)
    (state : State) :
    OperationResult :=
  let seen := if method.body.takesInputs then some (inputs.getD .rebuild) else none
  match method.body.content with
  | .note => (.succeeded, state.noted (note method.body target.task seen))
  | .noteAndFail message =>
      (.failed (.ofText message), state.noted (note method.body target.task none))
  | .operations operations => state.operateAll nested ⟨some target.task, seen⟩ operations

/-- Runs an isolated action that has been created. -/
def perform
    (nested : NestedExecution)
    (names : TypeNames)
    (services : Services)
    (parameters : Parameters)
    (state : State) :
    OperationResult :=
  match parameters with
  | .echo message count operations =>
      let entry := Json.ofAnswer [("echo", .text message), ("count", .ofNat count)]
      match ({ state with log := state.log ++ [entry] }).operateAll nested ⟨none, none⟩
          operations with
      | (.succeeded, state) => state.logged (.ofAnswer [("echoed", .text message)])
      | (outcome, state) => (outcome, state)
  | .greeter greeting =>
      match services.find? names.greeting with
      | some service =>
          if service.value.text? = some greeting then (.succeeded, state)
          else (.failed (.ofText ("unexpected greeting " ++ greeting)), state)
      | none => (.failed (.ofText ("unexpected greeting " ++ greeting)), state)
  | .copy source files =>
      if files.isEmpty then (.failed (.ofText ("nothing to copy from " ++ source)), state)
      else (.succeeded, state)
  | .refuse => (.succeeded, state)

end State

/-- The outcome of creating an isolated action. -/
def createOutcome : Except Cause Unit → Outcome
  | .ok _ => .succeeded
  | .error cause => .failed cause

/-- Answers the requests of an execution with the means of an executer. -/
def host (nested : NestedExecution) (setup : ExecuterSetup) : Host Body Parameters State where
  report event state := state.report [event]
  classInfo type state :=
    let (found, state) := state.lookup setup.store type
    (found.result, state)
  acquire state := state.onProject setup.lock Project.acquire
  release state := state.onProject setup.lock Project.release
  invoke method target inputs state := state.invoke nested method target inputs
  snapshot parameters state := state.graph parameters.graph
  create _ parameters state := (createOutcome (create setup.names setup.services parameters), state)
  perform _ parameters state := state.perform nested setup.names setup.services parameters
  record task action state := state.onProject setup.lock fun project => project.record task action

/-- Executions of which at most `depth` are nested in each other. -/
def nestedExecution : Nat → NestedExecution
  | 0 => none
  | depth + 1 =>
      some fun setup target state =>
        (Executer.execute setup.settings target none).run (host (nestedExecution depth) setup) state

/-- How many executions may be nested in an execution that a scenario starts. -/
def greatestNesting : Nat := 3

/-- The host of an execution that a scenario starts. -/
def outerHost (setup : ExecuterSetup) : Host Body Parameters State :=
  host (nestedExecution greatestNesting) setup

/-- What running the action of a single factory came to, and what its context offered. -/
structure FactoryRun where
  result : ActionResult
  /-- Whether the lock is free while the context gives it up. -/
  releasedInside : Bool
  /-- Whether the lock is held once the context has taken it back. -/
  heldAfter : Bool
  changesSeen : Option Nat
  servicesSeen : Nat

namespace State

/-- Executes a task. -/
def execute
    (state : State)
    (setup : ExecuterSetup)
    (target : ScenarioTask)
    (inputs : Option IncrementalInputs) :
    Completion × State :=
  (Executer.execute setup.settings target inputs).run (outerHost setup) state

/-- Executes tasks one after the other. -/
def executeAll
    (state : State)
    (setup : ExecuterSetup) :
    List ScenarioTask → List Completion × State
  | [] => ([], state)
  | target :: targets =>
      let (completion, state) := state.execute setup target none
      let (completions, state) := state.executeAll setup targets
      (completion :: completions, state)

/-- Runs the action of a factory with the lock held, and records nothing as completed. -/
def runFactory
    (state : State)
    (setup : ExecuterSetup)
    (factory : ActionFactory Body)
    (target : ScenarioTask)
    (inputs : Option IncrementalInputs) :
    FactoryRun × State :=
  let held := state.onProject setup.lock Project.acquire
  let (result, after) := (factory.attempt target inputs .done).run (outerHost setup) held
  let unlocked := (after.project setup.lock).release
  ({ result
     releasedInside := !unlocked.locked
     heldAfter := unlocked.acquire.locked
     changesSeen := inputs.map fun inputs => inputs.changes.length
     servicesSeen := setup.services.length },
    after.onProject setup.lock Project.release)

end State

end TaskDispatch.Scenario
