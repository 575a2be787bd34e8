import Mathlib.Data.List.Nodup
import Mathlib.Logic.Function.Basic
import TaskDispatch.Execution.Executer
import TaskDispatch.Execution.Project
import TaskDispatch.Proofs.Action.FactoryOrder

/-!
# Interleaved executions

Any number of workers execute tasks at the same time and share one project.  A procedure takes a
step when one of its requests is answered; which worker takes the next step is not determined.  User
code may end as it likes and live parameters may be read as anything, while the lock of the project
is given only to a worker that finds it free.  A worker whose request is to run a declared body is
inside that body until the request is answered.

`Follows` relates a procedure to the states of an automaton that reads its acts.  What a procedure
does in any interleaving can then be argued from the automaton alone.
-/

namespace TaskDispatch

variable {Body Parameters Result Worker : Type}

/-- An answered request. -/
inductive Act (Body : Type) where
  | reported (event : Event)
  | found (answer : ClassInfoResult Body)
  | acquired
  | released
  | invoked (method : ActionMethod Body) (outcome : Outcome)
  | read (values : Json)
  | created (outcome : Outcome)
  | performed (outcome : Outcome)
  | recorded (entry : CompletedAction)

namespace Procedure

/-- True if a procedure goes on as another one after an act. -/
inductive Takes :
    Procedure Body Parameters Result → Act Body → Procedure Body Parameters Result → Prop where
  | report {event : Event} {next : Procedure Body Parameters Result} :
      Takes (.report event next) (.reported event) next
  | classInfo
      {type : TaskType Body}
      {next : ClassInfoResult Body → Procedure Body Parameters Result} :
      Takes (.classInfo type next) (.found (ClassInfo.build type)) (next (ClassInfo.build type))
  | acquire {next : Procedure Body Parameters Result} : Takes (.acquire next) .acquired next
  | release {next : Procedure Body Parameters Result} : Takes (.release next) .released next
  | invoke
      {method : ActionMethod Body}
      {target : ConfiguredTask Body Parameters}
      {inputs : Option IncrementalInputs}
      {next : Outcome → Procedure Body Parameters Result}
      (outcome : Outcome) :
      Takes (.invoke method target inputs next) (.invoked method outcome) (next outcome)
  | snapshot
      {parameters : IsolatedParameters Parameters}
      {next : Json → Procedure Body Parameters Result}
      (values : Json) :
      Takes (.snapshot parameters next) (.read values) (next values)
  | create
      {action : IsolatedAction Parameters}
      {parameters : Parameters}
      {next : Outcome → Procedure Body Parameters Result}
      (outcome : Outcome) :
      Takes (.create action parameters next) (.created outcome) (next outcome)
  | perform
      {action : IsolatedAction Parameters}
      {parameters : Parameters}
      {next : Outcome → Procedure Body Parameters Result}
      (outcome : Outcome) :
      Takes (.perform action parameters next) (.performed outcome) (next outcome)
  | record {task action : String} {next : Procedure Body Parameters Result} :
      Takes (.record task action next) (.recorded ⟨task, action⟩) next

/-- The next act of a procedure and how it goes on, if user code ends with this outcome and all live
parameters are null. -/
def answer? (outcome : Outcome) :
    Procedure Body Parameters Result → Option (Act Body × Procedure Body Parameters Result)
  | .done _ => none
  | .report event next => some (.reported event, next)
  | .classInfo type next => some (.found (ClassInfo.build type), next (ClassInfo.build type))
  | .acquire next => some (.acquired, next)
  | .release next => some (.released, next)
  | .invoke method _ _ next => some (.invoked method outcome, next outcome)
  | .snapshot _ next => some (.read .null, next .null)
  | .create _ _ next => some (.created outcome, next outcome)
  | .perform _ _ next => some (.performed outcome, next outcome)
  | .record task action next => some (.recorded ⟨task, action⟩, next)

theorem takes_of_answer?
    {outcome : Outcome}
    {procedure rest : Procedure Body Parameters Result}
    {act : Act Body}
    (answered : procedure.answer? outcome = some (act, rest)) :
    procedure.Takes act rest := by
  cases procedure with
  | done result => cases answered
  | report event next =>
      cases answered
      exact .report
  | classInfo type next =>
      cases answered
      exact .classInfo
  | acquire next =>
      cases answered
      exact .acquire
  | release next =>
      cases answered
      exact .release
  | invoke method target inputs next =>
      cases answered
      exact .invoke outcome
  | snapshot parameters next =>
      cases answered
      exact .snapshot .null
  | create action parameters next =>
      cases answered
      exact .create outcome
  | perform action parameters next =>
      cases answered
      exact .perform outcome
  | record task action next =>
      cases answered
      exact .record

/-- True if every way a procedure can go is a way of an automaton, and the procedure is done only
in final states. -/
def Follows
    {State : Type}
    (Moves : State → Act Body → State → Prop)
    (Final : State → Prop) :
    State → Procedure Body Parameters Result → Prop
  | state, .done _ => Final state
  | state, .report event next =>
      ∃ after, Moves state (.reported event) after ∧ Follows Moves Final after next
  | state, .classInfo type next =>
      ∃ after, Moves state (.found (ClassInfo.build type)) after ∧
        Follows Moves Final after (next (ClassInfo.build type))
  | state, .acquire next =>
      ∃ after, Moves state .acquired after ∧ Follows Moves Final after next
  | state, .release next =>
      ∃ after, Moves state .released after ∧ Follows Moves Final after next
  | state, .invoke method _ _ next =>
      ∀ outcome, ∃ after, Moves state (.invoked method outcome) after ∧
        Follows Moves Final after (next outcome)
  | state, .snapshot _ next =>
      ∀ values, ∃ after, Moves state (.read values) after ∧
        Follows Moves Final after (next values)
  | state, .create _ _ next =>
      ∀ outcome, ∃ after, Moves state (.created outcome) after ∧
        Follows Moves Final after (next outcome)
  | state, .perform _ _ next =>
      ∀ outcome, ∃ after, Moves state (.performed outcome) after ∧
        Follows Moves Final after (next outcome)
  | state, .record task action next =>
      ∃ after, Moves state (.recorded ⟨task, action⟩) after ∧ Follows Moves Final after next

/-- A step of a procedure is one of the automaton it follows. -/
theorem Follows.step
    {State : Type}
    {Moves : State → Act Body → State → Prop}
    {Final : State → Prop}
    {state : State}
    {procedure rest : Procedure Body Parameters Result}
    {act : Act Body}
    (follows : Follows Moves Final state procedure)
    (takes : Takes procedure act rest) :
    ∃ after, Moves state act after ∧ Follows Moves Final after rest := by
  cases takes with
  | report => exact follows
  | classInfo => exact follows
  | acquire => exact follows
  | release => exact follows
  | invoke outcome => exact follows outcome
  | snapshot values => exact follows values
  | create outcome => exact follows outcome
  | perform outcome => exact follows outcome
  | record => exact follows

end Procedure

/-- The project after an act, if its lock admits the act. -/
def Project.after? (project : Project) : Act Body → Option Project
  | .acquired => if project.locked then none else some project.acquire
  | .released => some project.release
  | .recorded entry => some (project.record entry.task entry.action)
  | _ => some project

/-- A task that is to be executed, with the settings and the inputs of its execution. -/
structure Execution (Body Parameters : Type) where
  settings : ExecutionSettings
  configured : ConfiguredTask Body Parameters
  inputs : Option IncrementalInputs

namespace Execution

/-- What a worker does to execute a task. -/
def procedure
    (execution : Execution Body Parameters) :
    Procedure Body Parameters Completion :=
  Executer.execute execution.settings execution.configured execution.inputs

/-- The actions of a task, in the order of execution. -/
def factories (execution : Execution Body Parameters) : List (ActionFactory Body) :=
  match ClassInfo.build execution.configured.type with
  | .ok info => info.factories
  | .error _ => []

/-- The record of an action. -/
def entry (execution : Execution Body Parameters) (factory : ActionFactory Body) :
    CompletedAction :=
  ⟨execution.configured.path, factory.displayName⟩

end Execution

/-- What the acts of a worker have achieved. -/
structure Achievement (Body : Type) where
  /-- The actions that have succeeded, in order, each by its method. -/
  succeeded : List (Option (ActionMethod Body))
  /-- Whether an isolated action has been run with success and the lock has not been taken back;
  the action succeeds when it is. -/
  returning : Bool

namespace Achievement

/-- Before anything is achieved. -/
def nothing : Achievement Body := ⟨[], false⟩

/-- What is achieved after one more act. -/
def after (achievement : Achievement Body) : Act Body → Achievement Body
  | .invoked method .succeeded => ⟨achievement.succeeded ++ [some method], achievement.returning⟩
  | .performed .succeeded => ⟨achievement.succeeded, true⟩
  | .acquired =>
      if achievement.returning then ⟨achievement.succeeded ++ [none], false⟩
      else achievement
  | _ => achievement

end Achievement

namespace Trace

/-- The workers of the records in a trace, in order. -/
def recorders (trace : List (Worker × Act Body)) : List Worker :=
  trace.filterMap fun step =>
    match step.2 with
    | .recorded _ => some step.1
    | _ => none

theorem recorders_concat_recorded
    (trace : List (Worker × Act Body))
    (worker : Worker)
    (entry : CompletedAction) :
    recorders (trace ++ [(worker, .recorded entry)]) = recorders trace ++ [worker] := by
  simp [recorders]

theorem recorders_concat_other
    {act : Act Body}
    (notRecorded : ∀ entry, act ≠ .recorded entry)
    (trace : List (Worker × Act Body))
    (worker : Worker) :
    recorders (trace ++ [(worker, act)]) = recorders trace := by
  cases act with
  | recorded entry => exact absurd rfl (notRecorded entry)
  | _ => simp [recorders]

variable [DecidableEq Worker]

/-- What the acts of a worker in a trace have achieved. -/
def achieved (worker : Worker) (trace : List (Worker × Act Body)) : Achievement Body :=
  trace.foldl (fun achievement step =>
    if step.1 = worker then achievement.after step.2 else achievement) .nothing

/-- The workers that have held the lock after a list of workers that had, in the order in which each
took it for the first time. -/
def holdersAfter (holders : List Worker) : List (Worker × Act Body) → List Worker
  | [] => holders
  | (worker, .acquired) :: later =>
      if worker ∈ holders then holdersAfter holders later
      else holdersAfter (holders ++ [worker]) later
  | _ :: later => holdersAfter holders later

/-- The workers that have held the lock, in the order in which each took it for the first time. -/
def holders (trace : List (Worker × Act Body)) : List Worker := holdersAfter [] trace

theorem achieved_concat_self
    (worker : Worker)
    (trace : List (Worker × Act Body))
    (act : Act Body) :
    achieved worker (trace ++ [(worker, act)]) = (achieved worker trace).after act := by
  simp [achieved]

theorem achieved_concat_other
    {worker other : Worker}
    (different : other ≠ worker)
    (trace : List (Worker × Act Body))
    (act : Act Body) :
    achieved worker (trace ++ [(other, act)]) = achieved worker trace := by
  simp [achieved, different]

theorem holdersAfter_append
    (before : List Worker)
    (earlier later : List (Worker × Act Body)) :
    holdersAfter before (earlier ++ later) = holdersAfter (holdersAfter before earlier) later := by
  induction earlier generalizing before with
  | nil => rfl
  | cons step earlier ih =>
      rcases step with ⟨worker, act⟩
      cases act with
      | acquired =>
          by_cases known : worker ∈ before
          · simp only [List.cons_append, holdersAfter, if_pos known, ih]
          · simp only [List.cons_append, holdersAfter, if_neg known, ih]
      | _ => exact ih before

theorem holders_concat_again
    {trace : List (Worker × Act Body)}
    {worker : Worker}
    (known : worker ∈ holders trace) :
    holders (trace ++ [(worker, .acquired)]) = holders trace := by
  unfold holders at known ⊢
  simp only [holdersAfter_append, holdersAfter, if_pos known]

theorem holders_concat_first
    {trace : List (Worker × Act Body)}
    {worker : Worker}
    (new : worker ∉ holders trace) :
    holders (trace ++ [(worker, .acquired)]) = holders trace ++ [worker] := by
  unfold holders at new ⊢
  simp only [holdersAfter_append, holdersAfter, if_neg new]

theorem holders_concat_other
    {act : Act Body}
    (notAcquired : act ≠ .acquired)
    (trace : List (Worker × Act Body))
    (worker : Worker) :
    holders (trace ++ [(worker, act)]) = holders trace := by
  unfold holders
  rw [holdersAfter_append]
  cases act with
  | acquired => exact absurd rfl notAcquired
  | _ => rfl

theorem nodup_holdersAfter
    {before : List Worker}
    (distinct : before.Nodup)
    (trace : List (Worker × Act Body)) :
    (holdersAfter before trace).Nodup := by
  induction trace generalizing before with
  | nil => exact distinct
  | cons step later ih =>
      rcases step with ⟨worker, act⟩
      cases act with
      | acquired =>
          by_cases known : worker ∈ before
          · simp only [holdersAfter, if_pos known]
            exact ih distinct
          · simp only [holdersAfter, if_neg known]
            apply ih
            rw [← List.concat_eq_append]
            exact distinct.concat known
      | _ => exact ih distinct

theorem nodup_holders (trace : List (Worker × Act Body)) : (holders trace).Nodup :=
  nodup_holdersAfter List.nodup_nil trace

end Trace

/-- Where executions stand that share a project. -/
structure Scene (Body Parameters Worker : Type) where
  /-- What each worker still does. -/
  rest : Worker → Procedure Body Parameters Completion
  project : Project
  /-- Every act so far with the worker whose it is. -/
  trace : List (Worker × Act Body)

namespace Scene

variable [DecidableEq Worker]

/-- The scene before anyone has done anything. -/
def start (executions : Worker → Execution Body Parameters) : Scene Body Parameters Worker :=
  ⟨fun worker => (executions worker).procedure, .fresh, []⟩

/-- The scene after an act of a worker. -/
def advance
    (scene : Scene Body Parameters Worker)
    (worker : Worker)
    (act : Act Body)
    (rest : Procedure Body Parameters Completion)
    (project : Project) :
    Scene Body Parameters Worker :=
  ⟨Function.update scene.rest worker rest, project, scene.trace ++ [(worker, act)]⟩

/-- True of the scenes that executions can come to. -/
inductive Reachable
    (executions : Worker → Execution Body Parameters) :
    Scene Body Parameters Worker → Prop where
  | start : Reachable executions (start executions)
  | step
      {scene : Scene Body Parameters Worker}
      {worker : Worker}
      {act : Act Body}
      {rest : Procedure Body Parameters Completion}
      {project : Project}
      (reached : Reachable executions scene)
      (takes : (scene.rest worker).Takes act rest)
      (admitted : scene.project.after? act = some project) :
      Reachable executions (scene.advance worker act rest project)

/-- Plays a schedule: who takes the next step, and how user code ends in it. -/
def play (scene : Scene Body Parameters Worker) :
    List (Worker × Outcome) → Option (Scene Body Parameters Worker)
  | [] => some scene
  | (worker, outcome) :: later =>
      match (scene.rest worker).answer? outcome with
      | none => none
      | some (act, rest) =>
          match scene.project.after? act with
          | none => none
          | some project => (scene.advance worker act rest project).play later

/-- What a schedule leads to can be reached. -/
theorem Reachable.play
    {executions : Worker → Execution Body Parameters}
    {scene final : Scene Body Parameters Worker}
    {schedule : List (Worker × Outcome)}
    (reached : Reachable executions scene)
    (played : scene.play schedule = some final) :
    Reachable executions final := by
  induction schedule generalizing scene with
  | nil =>
      cases played
      exact reached
  | cons turn later ih =>
      rcases turn with ⟨worker, outcome⟩
      unfold Scene.play at played
      split at played
      · cases played
      · rename_i act rest answered
        split at played
        · cases played
        · rename_i project admitted
          exact ih (.step reached (Procedure.takes_of_answer? answered) admitted) played

end Scene

end TaskDispatch
