import TaskDispatch.Proofs.Action.OpenLookups
import TaskDispatch.Proofs.Execution.Course
import TaskDispatch.Proofs.Execution.Handover

/-!
# What the log of an execution tells

An execution reports events on its way: that the class info of a task type has been built or its
declarations are invalid, that an action is started, that an isolated action goes on without the
project lock, and how it all ended.  `Procedure.acts` lists everything that an execution does, the
reports among it, while a host answers its requests.  The host may be any host that looks task types
up in a store, so user code may do and report what it likes; only what the execution itself reports
is listed.  `Procedure.kept_run` says that this is what a host with a log has in it in the end.

A `Trial` is what became of one action that was attempted.  `Executer.log_tells_course` says that
the log has a store event exactly if class info was built, then the lines of every trial in order,
and then one line that fits the completion.
-/

namespace TaskDispatch

variable {Body Parameters Result State : Type}

/-! ## What is done and what is reported -/

/-- The event of a report. -/
def Act.event? : Act Body → Option Event
  | .reported event => some event
  | _ => none

/-- The entry of a record. -/
def Act.entry? : Act Body → Option CompletedAction
  | .recorded entry => some entry
  | _ => none

theorem Act.event?_reported (events : List Event) :
    (events.map (Act.reported : Event → Act Body)).filterMap Act.event? = events := by
  rw [List.filterMap_map]
  exact List.filterMap_some

theorem Act.entry?_reported (events : List Event) :
    (events.map (Act.reported : Event → Act Body)).filterMap Act.entry? = [] := by
  rw [List.filterMap_map]
  exact List.filterMap_eq_nil_iff.mpr fun _ _ => rfl

/-- A host that looks task types up in a store, which is a part of its state. -/
structure Host.LooksUpIn
    (host : Host Body Parameters State)
    (store : State → Store Body) :
    Prop where
  result :
    ∀ type state, (host.classInfo type state).1 = ((store state).lookup type).1.result
  store : ∀ type state, store (host.classInfo type state).2 = ((store state).lookup type).2

/-- A host that keeps in its state whatever is reported to it and whatever a lookup reports.  User
code adds nothing to what is kept, though it may report events of its own elsewhere. -/
structure Host.Keeps
    (host : Host Body Parameters State)
    (store : State → Store Body)
    (kept : State → List Event) :
    Prop where
  report : ∀ event state, kept (host.report event state) = kept state ++ [event]
  classInfo :
    ∀ type state,
      kept (host.classInfo type state).2 = kept state ++ ((store state).lookup type).1.events
  acquire : ∀ state, kept (host.acquire state) = kept state
  release : ∀ state, kept (host.release state) = kept state
  invoke :
    ∀ method target inputs state, kept (host.invoke method target inputs state).2 = kept state
  create : ∀ action values state, kept (host.create action values state).2 = kept state
  perform : ∀ action values state, kept (host.perform action values state).2 = kept state
  record : ∀ task action state, kept (host.record task action state) = kept state

/-- The same host with a log beside its state. -/
def Host.keeping
    (host : Host Body Parameters State)
    (store : State → Store Body) :
    Host Body Parameters (State × List Event) where
  report event state := (host.report event state.1, state.2 ++ [event])
  classInfo type state :=
    let answer := host.classInfo type state.1
    (answer.1, answer.2, state.2 ++ ((store state.1).lookup type).1.events)
  acquire state := (host.acquire state.1, state.2)
  release state := (host.release state.1, state.2)
  invoke method target inputs state :=
    let answer := host.invoke method target inputs state.1
    (answer.1, answer.2, state.2)
  snapshot parameters state := host.snapshot parameters state.1
  create action values state :=
    let answer := host.create action values state.1
    (answer.1, answer.2, state.2)
  perform action values state :=
    let answer := host.perform action values state.1
    (answer.1, answer.2, state.2)
  record task action state := (host.record task action state.1, state.2)

theorem Host.keeps_keeping
    (host : Host Body Parameters State)
    (store : State → Store Body) :
    (host.keeping store).Keeps (fun state => store state.1) Prod.snd where
  report _ _ := rfl
  classInfo _ _ := rfl
  acquire _ := rfl
  release _ := rfl
  invoke _ _ _ _ := rfl
  create _ _ _ := rfl
  perform _ _ _ := rfl
  record _ _ _ := rfl

theorem Host.LooksUpIn.keeping
    {host : Host Body Parameters State}
    {store : State → Store Body}
    (looksUp : host.LooksUpIn store) :
    (host.keeping store).LooksUpIn fun state => store state.1 where
  result type state := looksUp.result type state.1
  store type state := looksUp.store type state.1

namespace Procedure

/-- What a procedure does while a host answers its requests in order.  What a lookup in the store
reports stands before its answer. -/
def acts
    (host : Host Body Parameters State)
    (store : State → Store Body) :
    Procedure Body Parameters Result → State → List (Act Body)
  | .done _, _ => []
  | .report event next, state => .reported event :: acts host store next (host.report event state)
  | .classInfo type next, state =>
      let answer := host.classInfo type state
      ((store state).lookup type).1.events.map Act.reported ++
        .found answer.1 :: acts host store (next answer.1) answer.2
  | .acquire next, state => .acquired :: acts host store next (host.acquire state)
  | .release next, state => .released :: acts host store next (host.release state)
  | .invoke method target inputs next, state =>
      let answer := host.invoke method target inputs state
      .invoked method answer.1 :: acts host store (next answer.1) answer.2
  | .snapshot parameters next, state =>
      let values := host.snapshot parameters state
      .read values :: acts host store (next values) state
  | .create action parameters next, state =>
      let answer := host.create action parameters state
      .created answer.1 :: acts host store (next answer.1) answer.2
  | .perform action parameters next, state =>
      let answer := host.perform action parameters state
      .performed answer.1 :: acts host store (next answer.1) answer.2
  | .record task action next, state =>
      .recorded ⟨task, action⟩ :: acts host store next (host.record task action state)

/-- What a procedure reports. -/
def log
    (host : Host Body Parameters State)
    (store : State → Store Body)
    (procedure : Procedure Body Parameters Result)
    (state : State) :
    List Event :=
  (procedure.acts host store state).filterMap Act.event?

/-- What a procedure records. -/
def records
    (host : Host Body Parameters State)
    (store : State → Store Body)
    (procedure : Procedure Body Parameters Result)
    (state : State) :
    List CompletedAction :=
  (procedure.acts host store state).filterMap Act.entry?

/-- What is kept of a procedure is its log. -/
theorem kept_run
    {host : Host Body Parameters State}
    {store : State → Store Body}
    {kept : State → List Event}
    (keeps : host.Keeps store kept)
    (procedure : Procedure Body Parameters Result)
    (state : State) :
    kept (procedure.run host state).2 = kept state ++ procedure.log host store state := by
  unfold log
  induction procedure generalizing state with
  | done result => exact (List.append_nil _).symm
  | report event next ih =>
      rw [run, ih, keeps.report, List.append_assoc]
      rfl
  | classInfo type next ih =>
      rw [run, ih, keeps.classInfo, acts, List.filterMap_append, Act.event?_reported,
        List.append_assoc]
      rfl
  | acquire next ih =>
      rw [run, ih, keeps.acquire]
      rfl
  | release next ih =>
      rw [run, ih, keeps.release]
      rfl
  | invoke method target inputs next ih =>
      rw [run, ih, keeps.invoke]
      rfl
  | snapshot parameters next ih =>
      rw [run, ih]
      rfl
  | create action parameters next ih =>
      rw [run, ih, keeps.create]
      rfl
  | perform action parameters next ih =>
      rw [run, ih, keeps.perform]
      rfl
  | record task action next ih =>
      rw [run, ih, keeps.record]
      rfl

/-- True if a procedure does these acts and goes on as another one in another state. -/
structure Leads
    (host : Host Body Parameters State)
    (store : State → Store Body)
    (procedure : Procedure Body Parameters Result)
    (before : State)
    (done : List (Act Body))
    (rest : Procedure Body Parameters Result)
    (after : State) :
    Prop where
  run : procedure.run host before = rest.run host after
  acts : procedure.acts host store before = done ++ rest.acts host store after

end Procedure

/-! ## Actions that are attempted -/

/-- What became of an action that was attempted: what was done for it once it was announced, and its
result. -/
structure Trial (Body : Type) where
  factory : ActionFactory Body
  acts : List (Act Body)
  result : ActionResult

/-- True of an act that reads values which an isolated action materializes. -/
def Act.materializes (action : IsolatedAction Parameters) : Act Body → Bool
  | .read values => (action.materialize values).isDecoded
  | _ => false

namespace Trial

/-- The isolated action of a trial, if the parameters that were read for it materialized. -/
def prepared?
    (configured : ConfiguredTask Body Parameters)
    (trial : Trial Body) :
    Option (IsolatedAction Parameters) :=
  match trial.factory with
  | .isolated _ =>
      (configured.parameters.map IsolatedParameters.action).filter fun action =>
        trial.acts.any (Act.materializes action)
  | _ => none

/-- What the log should have of a trial. -/
def lines (configured : ConfiguredTask Body Parameters) (trial : Trial Body) : List Event :=
  ⟨.debug, "Executing action",
      [ ("task", .text configured.path), ("action", .text trial.factory.displayName),
        ("kind", .text trial.factory.kind.name) ]⟩ ::
    (trial.prepared? configured).toList.map fun action =>
      ⟨.debug, "Running isolated action without project lock",
        [("task", .text configured.path), ("action_type", .text action.name)]⟩

/-- The record that a trial leads to, if it has succeeded. -/
def record? (task : String) (trial : Trial Body) : Option CompletedAction :=
  if trial.result = .succeeded then some ⟨task, trial.factory.displayName⟩ else none

/-- Everything that is done for a trial, from its announcement to its record. -/
def allActs (task : String) (trial : Trial Body) : List (Act Body) :=
  .reported (Executer.executing task trial.factory) ::
    trial.acts ++ (trial.record? task).toList.map Act.recorded

/-- What can become of an action that is attempted. -/
inductive Fits
    (configured : ConfiguredTask Body Parameters)
    (inputs : Option IncrementalInputs) :
    Trial Body → Prop where
  | standard {typeName : String} {method : ActionMethod Body} (outcome : Outcome) :
      Fits configured inputs
        ⟨.standard typeName method, [.invoked method outcome],
          ActionFactory.bodyResult configured.path
            (ActionFactory.standard typeName method).displayName outcome⟩
  | incremental
      {typeName : String}
      {method : ActionMethod Body}
      (supplied : inputs ≠ none)
      (outcome : Outcome) :
      Fits configured inputs
        ⟨.incremental typeName method, [.invoked method outcome],
          ActionFactory.bodyResult configured.path
            (ActionFactory.incremental typeName method).displayName outcome⟩
  | withoutInputs {typeName : String} {method : ActionMethod Body} (missing : inputs = none) :
      Fits configured inputs
        ⟨.incremental typeName method, [], .failed (.missingInputs configured.path)⟩
  | isolated
      {typeName : String}
      {acts : List (Act Body)}
      {result : ActionResult}
      (ends : IsolatedEnds configured typeName acts result) :
      Fits configured inputs ⟨.isolated typeName, acts, result⟩

variable {configured : ConfiguredTask Body Parameters} {inputs : Option IncrementalInputs}

theorem any_materializes_acts (preparation : Preparation configured) (later : List (Act Body)) :
    (preparation.acts ++ later).any (Act.materializes preparation.parameters.action) = true := by
  simp [Preparation.acts, Act.materializes, preparation.materialized, Decoding.isDecoded]

theorem prepared?_of_preparation
    (preparation : Preparation configured)
    (later : List (Act Body))
    (typeName : String)
    (result : ActionResult) :
    prepared? configured ⟨.isolated typeName, preparation.acts ++ later, result⟩ =
      some preparation.parameters.action := by
  rw [prepared?, preparation.carried, Option.map_some]
  exact Option.filter_some_pos (any_materializes_acts preparation later)

/-- The event of running the isolated action of a trial stands for its preparation. -/
theorem Fits.event?_acts
    {trial : Trial Body}
    (fits : trial.Fits configured inputs) :
    trial.acts.filterMap Act.event? =
      (trial.prepared? configured).toList.map fun action =>
        ActionFactory.running configured.path action.name := by
  cases fits with
  | standard outcome => rfl
  | incremental supplied outcome => rfl
  | withoutInputs missing => rfl
  | isolated ends =>
      cases ends with
      | withoutParameters missing => simp [prepared?, missing]
      | notMaterialized carried refused =>
          simp [prepared?, carried, Act.event?, Act.materializes, refused, Decoding.isDecoded,
            Option.filter_some]
      | panickedInDecoding carried panics =>
          simp [prepared?, carried, Act.event?, Act.materializes, panics, Decoding.isDecoded,
            Option.filter_some]
      | _ =>
          rw [prepared?_of_preparation]
          rfl

theorem Fits.entry?_acts
    {trial : Trial Body}
    (fits : trial.Fits configured inputs) :
    trial.acts.filterMap Act.entry? = [] := by
  cases fits with
  | standard outcome => rfl
  | incremental supplied outcome => rfl
  | withoutInputs missing => rfl
  | isolated ends =>
      cases ends with
      | _ => rfl

/-- What is reported for a trial is what the log should have of it. -/
theorem Fits.event?_allActs
    {trial : Trial Body}
    (fits : trial.Fits configured inputs) :
    (trial.allActs configured.path).filterMap Act.event? = trial.lines configured := by
  have recorded :
      ((trial.record? configured.path).toList.map (Act.recorded : _ → Act Body)).filterMap
          Act.event? = [] := by
    cases trial.record? configured.path <;> rfl
  rw [allActs, List.filterMap_append, recorded, List.append_nil, List.filterMap_cons,
    fits.event?_acts]
  rfl

/-- What is recorded for a trial is what it leads to. -/
theorem Fits.entry?_allActs
    {trial : Trial Body}
    (fits : trial.Fits configured inputs) :
    (trial.allActs configured.path).filterMap Act.entry? =
      (trial.record? configured.path).toList := by
  have recorded :
      ((trial.record? configured.path).toList.map (Act.recorded : _ → Act Body)).filterMap
          Act.entry? = (trial.record? configured.path).toList := by
    cases trial.record? configured.path <;> rfl
  rw [allActs, List.filterMap_append, recorded, List.filterMap_cons, fits.entry?_acts]
  rfl

/-- What is reported for trials is what the log should have of them. -/
theorem event?_trials
    {trials : List (Trial Body)}
    (fits : ∀ trial ∈ trials, trial.Fits configured inputs) :
    (trials.flatMap (allActs configured.path)).filterMap Act.event? =
      trials.flatMap (lines configured) := by
  rw [List.filterMap_flatMap]
  exact List.flatMap_congr fun trial member => (fits trial member).event?_allActs

theorem entry?_trials
    {trials : List (Trial Body)}
    (fits : ∀ trial ∈ trials, trial.Fits configured inputs) :
    (trials.flatMap (allActs configured.path)).filterMap Act.entry? =
      trials.filterMap (record? configured.path) := by
  rw [List.filterMap_flatMap, List.filterMap_eq_flatMap_toList]
  exact List.flatMap_congr fun trial member => (fits trial member).entry?_allActs

/-! ## How a trial comes about -/

section Host

variable (host : Host Body Parameters State) (store : State → Store Body)

/-- An isolated action that has been created ends as its body does. -/
theorem ends_of_performed
    (preparation : Preparation configured)
    (typeName : String)
    (outcome : Outcome) :
    IsolatedEnds configured typeName
      (preparation.acts ++ [.created .succeeded, .performed outcome, .acquired])
      (ActionFactory.bodyResult configured.path
        (ActionFactory.isolated typeName : ActionFactory Body).displayName outcome) := by
  cases outcome with
  | succeeded => exact .succeeded preparation
  | failed cause => exact .bodyFailed preparation cause
  | panicked => exact .panickedInBody preparation

/-- An isolated action whose parameters have materialized is run without the lock. -/
theorem exists_ends_of_runUnlocked
    (preparation : Preparation configured)
    (typeName : String)
    (before : State) :
    ∃ outside result after,
      IsolatedEnds configured typeName (preparation.acts ++ outside) result ∧
        ∀ next : ActionResult → Procedure Body Parameters Completion,
          (ActionFactory.runUnlocked configured.path
              (ActionFactory.isolated typeName : ActionFactory Body).displayName
              preparation.parameters.action preparation.values next).Leads
            host store before (.released :: outside) (next result) after := by
  cases created :
    host.create preparation.parameters.action preparation.values (host.release before) with
  | mk outcome between =>
      cases outcome with
      | failed cause =>
          refine ⟨_, _, host.acquire between, .notCreated preparation cause, ?_⟩
          intro next
          constructor
          · simp [ActionFactory.runUnlocked, Procedure.run, created]
          · simp [ActionFactory.runUnlocked, Procedure.acts, created]
      | panicked =>
          refine ⟨_, _, host.acquire between, .panickedInCreate preparation, ?_⟩
          intro next
          constructor
          · simp [ActionFactory.runUnlocked, Procedure.run, created]
          · simp [ActionFactory.runUnlocked, Procedure.acts, created]
      | succeeded =>
          cases performed :
            host.perform preparation.parameters.action preparation.values between with
          | mk outcome after =>
              refine ⟨_, _, host.acquire after, ends_of_performed preparation typeName outcome, ?_⟩
              intro next
              constructor
              · simp [ActionFactory.runUnlocked, Procedure.run, created, performed]
              · simp [ActionFactory.runUnlocked, Procedure.acts, created, performed]

/-- An isolated action that is attempted ends, and what follows goes on with its result. -/
theorem exists_ends_of_isolated
    (configured : ConfiguredTask Body Parameters)
    (inputs : Option IncrementalInputs)
    (typeName : String)
    (before : State) :
    ∃ acts result after,
      IsolatedEnds configured typeName acts result ∧
        ∀ next : ActionResult → Procedure Body Parameters Completion,
          (ActionFactory.attempt configured inputs (.isolated typeName) next).Leads host store
            before acts (next result) after := by
  cases carried : configured.parameters with
  | none =>
      refine ⟨_, _, before, .withoutParameters carried, ?_⟩
      intro next
      rw [ActionFactory.attempt, carried]
      exact ⟨rfl, rfl⟩
  | some parameters =>
      cases materialized : parameters.action.materialize (host.snapshot parameters before) with
      | refused cause =>
          refine ⟨_, _, before, .notMaterialized carried materialized, ?_⟩
          intro next
          constructor
          · simp [ActionFactory.attempt, carried, Procedure.run, materialized]
          · simp [ActionFactory.attempt, carried, Procedure.acts, materialized]
      | panicked =>
          refine ⟨_, _, before, .panickedInDecoding carried materialized, ?_⟩
          intro next
          constructor
          · simp [ActionFactory.attempt, carried, Procedure.run, materialized]
          · simp [ActionFactory.attempt, carried, Procedure.acts, materialized]
      | decoded values =>
          let preparation : Preparation configured :=
            ⟨parameters, host.snapshot parameters before, values, carried, materialized⟩
          rcases exists_ends_of_runUnlocked host store preparation typeName
              (host.report
                (ActionFactory.running configured.path parameters.action.name) before) with
            ⟨outside, result, after, ends, leads⟩
          refine ⟨_, _, after, ends, ?_⟩
          intro next
          constructor
          · rw [← (leads next).run]
            simp [ActionFactory.attempt, carried, Procedure.run, materialized, preparation]
          · have acts := (leads next).acts
            simp only [preparation] at acts
            simp [ActionFactory.attempt, carried, Procedure.acts, materialized, preparation,
              Preparation.acts, acts]

/-- An action that is attempted comes to something, and what follows goes on with its result. -/
theorem exists_fits_of_attempt
    (configured : ConfiguredTask Body Parameters)
    (inputs : Option IncrementalInputs)
    (factory : ActionFactory Body)
    (before : State) :
    ∃ acts result after,
      Fits configured inputs ⟨factory, acts, result⟩ ∧
        ∀ next : ActionResult → Procedure Body Parameters Completion,
          (factory.attempt configured inputs next).Leads host store before acts (next result)
            after := by
  cases factory with
  | standard typeName method =>
      let answer := host.invoke method configured none before
      exact ⟨_, _, answer.2, .standard answer.1, fun next => ⟨rfl, rfl⟩⟩
  | incremental typeName method =>
      cases inputs with
      | none => exact ⟨_, _, before, .withoutInputs rfl, fun next => ⟨rfl, rfl⟩⟩
      | some changes =>
          let answer := host.invoke method configured (some changes) before
          have supplied : some changes ≠ none := Option.some_ne_none changes
          exact ⟨_, _, answer.2, .incremental supplied answer.1, fun next => ⟨rfl, rfl⟩⟩
  | isolated typeName =>
      rcases exists_ends_of_isolated host store configured inputs typeName before with
        ⟨acts, result, after, ends, leads⟩
      exact ⟨acts, result, after, .isolated ends, leads⟩

end Host

end Trial

/-! ## Actions that are run in order -/

/-- How an execution ends after the actions in `done`, with the actions that were left for it, what
became of those it attempted, and what it does after them. -/
inductive Ends
    (task : String)
    (incremental : Bool)
    (done : List String)
    (factories : List (ActionFactory Body)) :
    List (Trial Body) → List (Act Body) → Completion → Prop where
  | finished
      {trials : List (Trial Body)}
      {outcome : ExecutionOutcome}
      (attempted : trials.map Trial.factory = factories)
      (succeeded : ∀ trial ∈ trials, trial.result = .succeeded)
      (told :
        outcome =
          ⟨task, done ++ trials.map fun trial => trial.factory.displayName, incremental⟩) :
      Ends task incremental done factories trials
        [ .released,
          .reported
            ⟨.info, "Task executed",
              [("task", .text task), ("actions", .count outcome.actions.length)]⟩ ]
        (.finished outcome)
  | failed
      {earlier : List (Trial Body)}
      {last : Trial Body}
      {error : ExecutionError}
      (attempted : (earlier ++ [last]).map Trial.factory <+: factories)
      (succeeded : ∀ trial ∈ earlier, trial.result = .succeeded)
      (unsuccessful : last.result = .failed error) :
      Ends task incremental done factories (earlier ++ [last])
        [ .reported
            ⟨.error, "Task action failed",
              [("task", .text task), ("action", .text last.factory.displayName)]⟩,
          .released ]
        (.failed (.execution error))
  | panicked
      {earlier : List (Trial Body)}
      {last : Trial Body}
      (attempted : (earlier ++ [last]).map Trial.factory <+: factories)
      (succeeded : ∀ trial ∈ earlier, trial.result = .succeeded)
      (unsuccessful : last.result = .panicked) :
      Ends task incremental done factories (earlier ++ [last]) [.released] .panicked

/-- One more action that succeeded first. -/
theorem Ends.cons
    {task : String}
    {incremental : Bool}
    {done : List String}
    {factories : List (ActionFactory Body)}
    (first : Trial Body)
    {trials : List (Trial Body)}
    {ending : List (Act Body)}
    {completion : Completion}
    (succeeded : first.result = .succeeded)
    (ends :
      Ends task incremental (done ++ [first.factory.displayName]) factories trials ending
        completion) :
    Ends task incremental done (first.factory :: factories) (first :: trials) ending
      completion := by
  cases ends with
  | finished attempted others told =>
      refine .finished (congrArg _ attempted) (List.forall_mem_cons.mpr ⟨succeeded, others⟩) ?_
      rw [told, List.append_assoc]
      rfl
  | failed attempted others unsuccessful =>
      rw [← List.cons_append]
      exact .failed (List.prefix_cons_inj _ |>.mpr attempted)
        (List.forall_mem_cons.mpr ⟨succeeded, others⟩) unsuccessful
  | panicked attempted others unsuccessful =>
      rw [← List.cons_append]
      exact .panicked (List.prefix_cons_inj _ |>.mpr attempted)
        (List.forall_mem_cons.mpr ⟨succeeded, others⟩) unsuccessful

namespace Executer

section Actions

variable
  (host : Host Body Parameters State)
  (store : State → Store Body)
  (configured : ConfiguredTask Body Parameters)
  (inputs : Option IncrementalInputs)
  (incremental : Bool)

/-- What is done when the actions that are left are run: everything that belongs to the trials, one
after the other, and then what fits the completion. -/
theorem exists_trials_of_runActions
    (factories : List (ActionFactory Body))
    (done : List String)
    (state : State) :
    ∃ trials ending,
      (∀ trial ∈ trials, trial.Fits configured inputs) ∧
        (runActions configured inputs incremental done factories).acts host store state =
          trials.flatMap (Trial.allActs configured.path) ++ ending ∧
        Ends configured.path incremental done factories trials ending
          ((runActions configured inputs incremental done factories).run host state).1 := by
  induction factories generalizing done state with
  | nil =>
      refine ⟨[], _, List.forall_mem_nil _, rfl, ?_⟩
      have names : done = done ++ [] := (List.append_nil done).symm
      exact .finished rfl (List.forall_mem_nil _) (congrArg (ExecutionOutcome.mk _ · _) names)
  | cons factory factories ih =>
      rcases Trial.exists_fits_of_attempt host store configured inputs factory
          (host.report (executing configured.path factory) state) with
        ⟨acts, result, after, fits, leads⟩
      rw [runActions, Procedure.run, Procedure.acts, (leads _).run, (leads _).acts]
      have first : [factory] <+: factory :: factories := List.prefix_append [factory] factories
      cases result with
      | succeeded =>
          rcases ih (done ++ [factory.displayName])
              (host.record configured.path factory.displayName after) with
            ⟨trials, ending, allFit, acted, ends⟩
          let trial : Trial Body := ⟨factory, acts, .succeeded⟩
          refine ⟨trial :: trials, ending, List.forall_mem_cons.mpr ⟨fits, allFit⟩, ?_, ?_⟩
          · simp [Procedure.acts, acted, Trial.allActs, Trial.record?, trial]
          · exact Ends.cons trial rfl ends
      | failed error =>
          let trial : Trial Body := ⟨factory, acts, .failed error⟩
          refine ⟨[] ++ [trial], _, List.forall_mem_singleton.mpr fits, ?_,
            .failed first (List.forall_mem_nil _) rfl⟩
          simp [Procedure.acts, Trial.allActs, Trial.record?, trial, actionFailed]
      | panicked =>
          let trial : Trial Body := ⟨factory, acts, .panicked⟩
          refine ⟨[] ++ [trial], _, List.forall_mem_singleton.mpr fits, ?_,
            .panicked first (List.forall_mem_nil _) rfl⟩
          simp [Procedure.acts, Trial.allActs, Trial.record?, trial]

end Actions

end Executer

/-! ## Actions that are announced and actions that are recorded -/

/-- True of the event that announces an action. -/
def Event.announcesAction (event : Event) : Bool :=
  event.level == .debug && event.message == "Executing action"

/-- How many of the actions that an execution attempted are left without a record. -/
def Completion.unrecorded : Completion → Nat
  | .failed (.execution _) => 1
  | .panicked => 1
  | _ => 0

theorem Trial.countP_lines (configured : ConfiguredTask Body Parameters) (trial : Trial Body) :
    (trial.lines configured).countP Event.announcesAction = 1 := by
  rw [lines]
  cases trial.prepared? configured <;> rfl

theorem Trial.countP_flatMap_lines
    (configured : ConfiguredTask Body Parameters)
    (trials : List (Trial Body)) :
    (trials.flatMap (Trial.lines configured)).countP Event.announcesAction = trials.length := by
  simp [List.countP_flatMap, Function.comp_def, Trial.countP_lines]

theorem Trial.length_filterMap_record?
    {trials : List (Trial Body)}
    (succeeded : ∀ trial ∈ trials, trial.result = .succeeded)
    (task : String) :
    (trials.filterMap (Trial.record? task)).length = trials.length := by
  induction trials with
  | nil => rfl
  | cons trial trials ih =>
      rw [List.forall_mem_cons] at succeeded
      rw [List.filterMap_cons, record?, if_pos succeeded.1]
      simp [ih succeeded.2]

namespace Ends

variable
  {task : String}
  {incremental : Bool}
  {done : List String}
  {factories : List (ActionFactory Body)}
  {trials : List (Trial Body)}
  {ending : List (Act Body)}
  {completion : Completion}

/-- No action is announced after the last one. -/
theorem countP_ending (ends : Ends task incremental done factories trials ending completion) :
    (ending.filterMap Act.event?).countP Event.announcesAction = 0 := by
  cases ends with
  | finished => rfl
  | failed => rfl
  | panicked => rfl

theorem entry?_ending (ends : Ends task incremental done factories trials ending completion) :
    ending.filterMap Act.entry? = [] := by
  cases ends with
  | finished => rfl
  | failed => rfl
  | panicked => rfl

/-- All actions that were attempted are recorded, up to one that did not succeed. -/
theorem length_records (ends : Ends task incremental done factories trials ending completion) :
    trials.length = (trials.filterMap (Trial.record? task)).length + completion.unrecorded := by
  cases ends with
  | finished attempted succeeded told =>
      simp [Trial.length_filterMap_record? succeeded, Completion.unrecorded]
  | failed attempted succeeded unsuccessful =>
      simp [Trial.length_filterMap_record? succeeded, Completion.unrecorded, Trial.record?,
        unsuccessful]
  | panicked attempted succeeded unsuccessful =>
      simp [Trial.length_filterMap_record? succeeded, Completion.unrecorded, Trial.record?,
        unsuccessful]

end Ends

/-! ## The store event -/

/-- What is reported of class info that has been built: how many actions there are, or the code of
the error in the declarations. -/
def Announces (type : TaskType Body) (event : Event) : ClassInfoResult Body → Prop
  | .ok info =>
      event.level = .debug ∧
        event.message = "Built task class info" ∧
          ("task_type", .text type.name) ∈ event.fields ∧
            ("actions", .count info.factories.length) ∈ event.fields
  | .error error =>
      event.level = .warn ∧
        event.message = "Invalid task action declarations" ∧
          ("task_type", .text type.name) ∈ event.fields ∧ ("code", .text error.code) ∈ event.fields

/-- The event of class info that has been built does not announce an action. -/
theorem Announces.announcesAction_eq
    {type : TaskType Body}
    {event : Event}
    {answer : ClassInfoResult Body}
    (announces : Announces type event answer) :
    event.announcesAction = false := by
  cases answer with
  | ok info => simp [Event.announcesAction, announces.2.1]
  | error error => simp [Event.announcesAction, announces.2.1]

/-- What a lookup reports: nothing unless it builds class info, and then one event. -/
structure Store.Reports
    (store : Store Body)
    (type : TaskType Body)
    (answer : ClassInfoResult Body)
    (after : Store Body)
    (events : List Event) :
    Prop where
  constructed : after.constructions = store.constructions + events.length
  once : events.length ≤ 1
  announces : ∀ event ∈ events, Announces type event answer
  /-- In a store with a history, nothing is built exactly if the type is remembered. -/
  silent_iff :
    ∀ (types : Set (TaskType Body)) (calls : List (StoreCall Body)),
      types.InjOn TaskType.identity →
        (∀ other, .lookup other ∈ calls → other ∈ types) →
          store = .after calls →
            type ∈ types → (events = [] ↔ Remembered calls type.identity)

namespace Store

theorem announces_built (type : TaskType Body) (answer : ClassInfoResult Body) :
    Announces type (built type answer) answer := by
  cases answer with
  | ok info => exact ⟨rfl, rfl, by simp [built], by simp [built]⟩
  | error error => exact ⟨rfl, rfl, by simp [built], by simp [built]⟩

theorem silent_iff_of_after
    {types : Set (TaskType Body)}
    {calls : List (StoreCall Body)}
    {type : TaskType Body}
    (distinct : types.InjOn TaskType.identity)
    (known : ∀ other, .lookup other ∈ calls → other ∈ types)
    (member : type ∈ types) :
    ((after calls).lookup type).1.events = [] ↔ Remembered calls type.identity := by
  have remembers : (after calls).Remembers types := remembers_after distinct known
  rw [← isSome_cell?_after_iff]
  cases found : (after calls).cell? type.identity with
  | none => simp [remembers.lookup_of_missing found]
  | some cell => simp [remembers.lookup_of_cached member found]

theorem reports_lookup (store : Store Body) (type : TaskType Body) :
    store.Reports type (store.lookup type).1.result (store.lookup type).2
      (store.lookup type).1.events := by
  have silent (types : Set (TaskType Body)) (calls : List (StoreCall Body))
      (distinct : types.InjOn TaskType.identity)
      (known : ∀ other, .lookup other ∈ calls → other ∈ types)
      (same : store = .after calls)
      (member : type ∈ types) :
      (store.lookup type).1.events = [] ↔ Remembered calls type.identity := by
    rw [same]
    exact silent_iff_of_after distinct known member
  have constructions := constructions_obtain store type.identity
  have looked : store.lookup type =
      (store.obtain type.identity).2.settle (store.obtain type.identity).1 type := rfl
  cases content : (store.obtain type.identity).2.content? (store.obtain type.identity).1 with
  | none =>
      rw [settle_of_unfilled _ _ content] at looked
      refine ⟨?_, ?_, ?_, silent⟩
      · rw [looked, ← constructions]
        rfl
      · rw [looked]
        exact le_refl 1
      · rw [looked]
        exact List.forall_mem_singleton.mpr (announces_built type _)
  | some result =>
      rw [settle_of_filled _ _ content] at looked
      refine ⟨?_, ?_, ?_, silent⟩
      · rw [looked, ← constructions]
        rfl
      · rw [looked]
        exact Nat.zero_le 1
      · rw [looked]
        exact List.forall_mem_nil _

end Store

/-! ## Executions -/

namespace Executer

/-- What an execution does, reports and records, and how it ends, with the answer of the store and
what was reported on the way to it. -/
def Tells
    (settings : ExecutionSettings)
    (configured : ConfiguredTask Body Parameters)
    (inputs : Option IncrementalInputs)
    (built : List Event)
    (acts : List (Act Body))
    (log : List Event)
    (records : List CompletedAction)
    (completion : Completion) :
    ClassInfoResult Body → Prop
  | .error error =>
      completion = .failed (.metadata error) ∧
        acts = built.map Act.reported ++ [.found (.error error)] ∧ log = built ∧ records = []
  | .ok info =>
      ∃ trials ending,
        (∀ trial ∈ trials, trial.Fits configured (effectiveInputs settings info inputs)) ∧
          Ends configured.path info.incremental [] info.factories trials ending completion ∧
          acts =
            built.map Act.reported ++ [.found (.ok info), .acquired] ++
              trials.flatMap (Trial.allActs configured.path) ++ ending ∧
          log = built ++ trials.flatMap (Trial.lines configured) ++ ending.filterMap Act.event? ∧
          records = trials.filterMap (Trial.record? configured.path)

section Execution

variable
  {settings : ExecutionSettings}
  {configured : ConfiguredTask Body Parameters}
  {inputs : Option IncrementalInputs}

/-- What is done tells what is reported and what is recorded. -/
theorem tells_of_acts
    {info : ClassInfo Body}
    {built : List Event}
    {trials : List (Trial Body)}
    {ending : List (Act Body)}
    {completion : Completion}
    (fits : ∀ trial ∈ trials, trial.Fits configured (effectiveInputs settings info inputs))
    (ends : Ends configured.path info.incremental [] info.factories trials ending completion) :
    let acts :=
      built.map Act.reported ++ [.found (.ok info), .acquired] ++
        trials.flatMap (Trial.allActs configured.path) ++ ending
    Tells settings configured inputs built acts (acts.filterMap Act.event?)
      (acts.filterMap Act.entry?) completion (.ok info) := by
  intro acts
  refine ⟨trials, ending, fits, ends, rfl, ?log, ?records⟩
  case log =>
    have silent :
        [(.found (.ok info) : Act Body), .acquired].filterMap Act.event? = [] := rfl
    simp only [acts, List.filterMap_append, Act.event?_reported, silent, Trial.event?_trials fits,
      List.append_nil]
  case records =>
    have unrecorded :
        [(.found (.ok info) : Act Body), .acquired].filterMap Act.entry? = [] := rfl
    simp only [acts, List.filterMap_append, Act.entry?_reported, unrecorded,
      Trial.entry?_trials fits, ends.entry?_ending, List.append_nil, List.nil_append]

variable (settings configured inputs)

theorem tells_execute
    (host : Host Body Parameters State)
    (store : State → Store Body)
    (state : State) :
    let procedure : Procedure Body Parameters Completion := execute settings configured inputs
    Tells settings configured inputs ((store state).lookup configured.type).1.events
      (procedure.acts host store state) (procedure.log host store state)
      (procedure.records host store state) (procedure.run host state).1
      (host.classInfo configured.type state).1 := by
  intro procedure
  cases answered : (host.classInfo configured.type state).1 with
  | error error =>
      have ended : (procedure.run host state).1 = .failed (.metadata error) := by
        simp [procedure, execute, Procedure.run, answered]
      have acted :
          procedure.acts host store state =
            ((store state).lookup configured.type).1.events.map Act.reported ++
              [.found (.error error)] := by
        simp [procedure, execute, Procedure.acts, answered]
      refine ⟨ended, acted, ?log, ?records⟩
      case log =>
        rw [Procedure.log, acted, List.filterMap_append, Act.event?_reported]
        exact List.append_nil _
      case records =>
        rw [Procedure.records, acted, List.filterMap_append, Act.entry?_reported]
        rfl
  | ok info =>
      let held := host.acquire (host.classInfo configured.type state).2
      let actions :=
        runActions configured (effectiveInputs settings info inputs) info.incremental []
          info.factories
      have ended : procedure.run host state = actions.run host held := by
        simp [procedure, execute, Procedure.run, answered, actions, held]
      rcases exists_trials_of_runActions host store configured
          (effectiveInputs settings info inputs) info.incremental info.factories [] held with
        ⟨trials, ending, fits, acted, ends⟩
      have acts :
          procedure.acts host store state =
            ((store state).lookup configured.type).1.events.map Act.reported ++
                [.found (.ok info), .acquired] ++
              trials.flatMap (Trial.allActs configured.path) ++ ending := by
        simp [procedure, execute, Procedure.acts, answered, acted, held]
      rw [Procedure.log, Procedure.records, acts, ended]
      exact tells_of_acts fits ends

end Execution

/-- One action is announced for each that is recorded, and one more if an action did not succeed. -/
theorem Tells.countP_announcesAction
    {settings : ExecutionSettings}
    {configured : ConfiguredTask Body Parameters}
    {inputs : Option IncrementalInputs}
    {built log : List Event}
    {acts : List (Act Body)}
    {records : List CompletedAction}
    {completion : Completion}
    {answer : ClassInfoResult Body}
    (tells : Tells settings configured inputs built acts log records completion answer)
    (quiet : built.countP Event.announcesAction = 0) :
    log.countP Event.announcesAction = records.length + completion.unrecorded := by
  cases answer with
  | error error =>
      rcases tells with ⟨rfl, -, rfl, rfl⟩
      exact quiet
  | ok info =>
      rcases tells with ⟨trials, ending, -, ends, -, rfl, rfl⟩
      rw [List.countP_append, List.countP_append, quiet, Trial.countP_flatMap_lines,
        ends.countP_ending, ends.length_records, Nat.zero_add, Nat.add_zero]

/-- The log of an execution tells the truth, and is what is kept of it.  It begins with the event of
the class info exactly if this was built, and has for every action that was attempted the line that
announces it, in order, followed by that of an isolated action exactly if its parameters
materialized.  It ends with one line that fits the completion, or as it began if the declarations
are invalid. -/
theorem log_tells_course
    {host : Host Body Parameters State}
    {store : State → Store Body}
    (looksUp : host.LooksUpIn store)
    (settings : ExecutionSettings)
    (configured : ConfiguredTask Body Parameters)
    (inputs : Option IncrementalInputs)
    (state : State) :
    let procedure : Procedure Body Parameters Completion := execute settings configured inputs
    let answer := host.classInfo configured.type state
    let completion := (procedure.run host state).1
    let log := procedure.log host store state
    let records := procedure.records host store state
    (∀ kept, host.Keeps store kept → kept (procedure.run host state).2 = kept state ++ log) ∧
      ∃ built,
        (store state).Reports configured.type answer.1 (store answer.2) built ∧
          Tells settings configured inputs built (procedure.acts host store state) log records
            completion answer.1 ∧
          log.countP Event.announcesAction = records.length + completion.unrecorded := by
  intro procedure answer completion log records
  let built := ((store state).lookup configured.type).1.events
  have reports : (store state).Reports configured.type answer.1 (store answer.2) built := by
    rw [looksUp.result, looksUp.store]
    exact (store state).reports_lookup configured.type
  have quiet : built.countP Event.announcesAction = 0 :=
    List.countP_eq_zero.mpr fun event member =>
      Bool.not_eq_true _ ▸ (reports.announces event member).announcesAction_eq
  have tells := tells_execute settings configured inputs host store state
  refine ⟨?kept, built, reports, tells, tells.countP_announcesAction quiet⟩
  case kept => exact fun kept keeps => procedure.kept_run keeps state

/-! ## An isolated action that fails -/

namespace Sealing

/-- A type with a declared action and an isolated one. -/
def box : TaskType Unit :=
  { own := ⟨⟨1⟩, "Box", false, true, [.standard "fold" ()]⟩
    ancestors := [] }

def configured : ConfiguredTask Unit Unit :=
  ⟨⟨⟨1⟩, ":box"⟩, box, some ⟨0, "Seal", fun _ => .decoded ()⟩⟩

/-- Every body succeeds, except that of the isolated action. -/
def code : UserCode Unit Unit Unit where
  invoke _ _ _ _ := (.succeeded, ())
  read _ _ := .null
  create _ _ _ := (.succeeded, ())
  perform _ _ _ := (.failed ⟨"no wax", []⟩, ())

def start : Session Unit Unit Unit := ⟨.fresh, .empty, (), [], false⟩

def host : Host Unit Unit (Session Unit Unit Unit × List Event) := code.host.keeping Session.store

/-- Two actions are announced, of which one is recorded. -/
theorem failure_told :
    let store (state : Session Unit Unit Unit × List Event) := state.1.store
    let procedure : Procedure Unit Unit Completion := execute .default configured none
    let kept := (procedure.run host (start, [])).2.2
    host.LooksUpIn store ∧
      host.Keeps store Prod.snd ∧
      kept.map (fun event => (event.level, event.message)) =
        [ (.debug, "Built task class info"), (.debug, "Executing action"),
          (.debug, "Executing action"), (.debug, "Running isolated action without project lock"),
          (.error, "Task action failed") ] ∧
      procedure.records host store (start, []) = [⟨":box", "Box.fold()"⟩] ∧
      kept.countP Event.announcesAction = 1 + 1 := by
  intro store procedure kept
  have looksUpInSession : code.host.LooksUpIn Session.store := ⟨fun _ _ => rfl, fun _ _ => rfl⟩
  have looksUp : host.LooksUpIn store := looksUpInSession.keeping
  have keeps : host.Keeps store Prod.snd := code.host.keeps_keeping Session.store
  refine ⟨looksUp, keeps, rfl, rfl, ?_⟩
  rcases log_tells_course looksUp .default configured none (start, []) with
    ⟨isKept, built, -, -, counted⟩
  have logged : kept = procedure.log host store (start, []) := isKept Prod.snd keeps
  rw [logged]
  exact counted

end Sealing

end Executer

end TaskDispatch
