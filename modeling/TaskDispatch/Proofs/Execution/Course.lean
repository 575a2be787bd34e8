import TaskDispatch.Proofs.Action.Memo
import TaskDispatch.Proofs.Execution.Interleaving

/-!
# The course of an execution

An executer keeps a project and a store of class info, and runs executions one after the other.
User code has a world of its own, which it may change whenever it is asked to do something; it ends
as it likes, but it does not touch the project.

`Course` says how the actions of a task should be run: in order, up to and including the first that
does not succeed.  It is about user code alone, and knows neither the project nor the executer.  The
theorem `UserCode.execute_course` puts four things in step with it: what was asked of user code, the
records in the project, how the execution ended, and the state the executer is left in, in which the
next execution has a course of its own.

An executer that took a lock which is held would wait forever.  A session remembers that this has
happened, so that the theorem can say that it never does.
-/

namespace TaskDispatch

variable {Body Parameters World : Type}

/-! ## User code -/

/-- What user code does when it is asked.  Only its own world is its to change. -/
structure UserCode (Body Parameters World : Type) where
  invoke :
    ActionMethod Body → ConfiguredTask Body Parameters → Option IncrementalInputs → World →
      Outcome × World
  /-- What live parameters are at the moment they are read. -/
  read : IsolatedParameters Parameters → World → Json
  create : IsolatedAction Parameters → Parameters → World → Outcome × World
  perform : IsolatedAction Parameters → Parameters → World → Outcome × World

/-- What was asked of user code, and how it ended. -/
inductive Exchange (Body Parameters : Type) where
  | invoked
      (method : ActionMethod Body)
      (target : ConfiguredTask Body Parameters)
      (inputs : Option IncrementalInputs)
      (outcome : Outcome)
  | created (action : IsolatedAction Parameters) (parameters : Parameters) (outcome : Outcome)
  | performed (action : IsolatedAction Parameters) (parameters : Parameters) (outcome : Outcome)

namespace Exchange

/-- How the user code ended. -/
def outcome : Exchange Body Parameters → Outcome
  | .invoked _ _ _ outcome => outcome
  | .created _ _ outcome => outcome
  | .performed _ _ outcome => outcome

end Exchange

/-! ## How actions should be run -/

/-- The result of an action whose body has ended. -/
inductive Settles (task action : String) : Outcome → ActionResult → Prop where
  | succeeded : Settles task action .succeeded .succeeded
  | failed (cause : Cause) :
      Settles task action (.failed cause) (.failed (.actionFailed task action cause))
  | panicked : Settles task action .panicked .panicked

section Courses

variable
  (code : UserCode Body Parameters World)
  (configured : ConfiguredTask Body Parameters)
  (inputs : Option IncrementalInputs)

/-- What running one action comes to: the exchanges with user code, the result of the action, and
the world it leaves. -/
inductive Attempts :
    ActionFactory Body → World → List (Exchange Body Parameters) → ActionResult → World → Prop where
  | standard
      {typeName : String}
      {method : ActionMethod Body}
      {outcome : Outcome}
      {result : ActionResult}
      {before after : World}
      (ran : code.invoke method configured none before = (outcome, after))
      (settles :
        Settles configured.path (ActionFactory.standard typeName method).displayName outcome
          result) :
      Attempts (.standard typeName method) before [.invoked method configured none outcome] result
        after
  | incremental
      {typeName : String}
      {method : ActionMethod Body}
      {changes : IncrementalInputs}
      {outcome : Outcome}
      {result : ActionResult}
      {before after : World}
      (supplied : inputs = some changes)
      (ran : code.invoke method configured (some changes) before = (outcome, after))
      (settles :
        Settles configured.path (ActionFactory.incremental typeName method).displayName outcome
          result) :
      Attempts (.incremental typeName method) before
        [.invoked method configured (some changes) outcome] result after
  | withoutInputs
      {typeName : String}
      {method : ActionMethod Body}
      {world : World}
      (missing : inputs = none) :
      Attempts (.incremental typeName method) world []
        (.failed (.missingInputs configured.path)) world
  | withoutParameters
      {typeName : String}
      {world : World}
      (missing : configured.parameters = none) :
      Attempts (.isolated typeName) world [] (.failed (.notIsolatable configured.path)) world
  | notMaterialized
      {typeName : String}
      {parameters : IsolatedParameters Parameters}
      {cause : Cause}
      {world : World}
      (carried : configured.parameters = some parameters)
      (refused : parameters.action.materialize (code.read parameters world) = .refused cause) :
      Attempts (.isolated typeName) world [] (.failed (.isolation configured.path cause)) world
  | panickedInDecoding
      {typeName : String}
      {parameters : IsolatedParameters Parameters}
      {world : World}
      (carried : configured.parameters = some parameters)
      (panics : parameters.action.materialize (code.read parameters world) = .panicked) :
      Attempts (.isolated typeName) world [] .panicked world
  | notCreated
      {typeName : String}
      {parameters : IsolatedParameters Parameters}
      {values : Parameters}
      {cause : Cause}
      {before after : World}
      (carried : configured.parameters = some parameters)
      (materialized :
        parameters.action.materialize (code.read parameters before) = .decoded values)
      (created : code.create parameters.action values before = (.failed cause, after)) :
      Attempts (.isolated typeName) before [.created parameters.action values (.failed cause)]
        (.failed (.instantiation configured.path parameters.action.name cause)) after
  | panickedInCreate
      {typeName : String}
      {parameters : IsolatedParameters Parameters}
      {values : Parameters}
      {before after : World}
      (carried : configured.parameters = some parameters)
      (materialized :
        parameters.action.materialize (code.read parameters before) = .decoded values)
      (created : code.create parameters.action values before = (.panicked, after)) :
      Attempts (.isolated typeName) before [.created parameters.action values .panicked] .panicked
        after
  | isolated
      {typeName : String}
      {parameters : IsolatedParameters Parameters}
      {values : Parameters}
      {outcome : Outcome}
      {result : ActionResult}
      {before between after : World}
      (carried : configured.parameters = some parameters)
      (materialized :
        parameters.action.materialize (code.read parameters before) = .decoded values)
      (created : code.create parameters.action values before = (.succeeded, between))
      (ran : code.perform parameters.action values between = (outcome, after))
      (settles :
        Settles configured.path (.isolated typeName : ActionFactory Body).displayName outcome
          result) :
      Attempts (.isolated typeName) before
        [ .created parameters.action values .succeeded,
          .performed parameters.action values outcome ]
        result after

/-- The course of some actions: those that succeed one after the other, and then the first that does
not, with its result.  There is no such action if the result is `succeeded`. -/
inductive Course :
    List (ActionFactory Body) → World → List (Exchange Body Parameters) →
      List (ActionFactory Body) → ActionResult → World → Prop where
  | finished (world : World) : Course [] world [] [] .succeeded world
  | stopped
      {factory : ActionFactory Body}
      {later : List (ActionFactory Body)}
      {exchanges : List (Exchange Body Parameters)}
      {result : ActionResult}
      {before after : World}
      (attempt : Attempts code configured inputs factory before exchanges result after)
      (unsuccessful : result ≠ .succeeded) :
      Course (factory :: later) before exchanges [] result after
  | succeeded
      {factory : ActionFactory Body}
      {later succeeded : List (ActionFactory Body)}
      {first others : List (Exchange Body Parameters)}
      {result : ActionResult}
      {before between after : World}
      (attempt : Attempts code configured inputs factory before first .succeeded between)
      (rest : Course later between others succeeded result after) :
      Course (factory :: later) before (first ++ others) (factory :: succeeded) result after

end Courses

/-! ## Failures and what they name -/

section Failures

variable
  {code : UserCode Body Parameters World}
  {configured : ConfiguredTask Body Parameters}
  {inputs : Option IncrementalInputs}
  {factory : ActionFactory Body}
  {factories succeeded : List (ActionFactory Body)}
  {exchanges : List (Exchange Body Parameters)}
  {result : ActionResult}
  {error : ExecutionError}
  {before after : World}

theorem Settles.exists_eq_of_failed
    {task action : String}
    {outcome : Outcome}
    (settles : Settles task action outcome (.failed error)) :
    ∃ cause, outcome = .failed cause ∧ error = .actionFailed task action cause := by
  cases settles with
  | failed cause => exact ⟨cause, rfl, rfl⟩

theorem Settles.eq_succeeded
    {task action : String}
    {outcome : Outcome}
    (settles : Settles task action outcome .succeeded) :
    outcome = .succeeded := by
  cases settles
  rfl

theorem Attempts.task_eq
    (attempt : Attempts code configured inputs factory before exchanges (.failed error) after) :
    error.task = configured.path := by
  cases attempt with
  | standard ran settles =>
      rcases settles.exists_eq_of_failed with ⟨cause, -, rfl⟩
      rfl
  | incremental supplied ran settles =>
      rcases settles.exists_eq_of_failed with ⟨cause, -, rfl⟩
      rfl
  | isolated carried materialized created ran settles =>
      rcases settles.exists_eq_of_failed with ⟨cause, -, rfl⟩
      rfl
  | withoutInputs => rfl
  | withoutParameters => rfl
  | notMaterialized => rfl
  | notCreated => rfl

/-- An error keeps the cause with which user code failed. -/
theorem Attempts.source_eq
    (attempt : Attempts code configured inputs factory before exchanges (.failed error) after)
    {exchange : Exchange Body Parameters}
    (member : exchange ∈ exchanges)
    {cause : Cause}
    (failed : exchange.outcome = .failed cause) :
    error.source = some cause := by
  cases attempt with
  | standard ran settles =>
      rcases settles.exists_eq_of_failed with ⟨cause', rfl, rfl⟩
      cases List.mem_singleton.1 member
      cases failed
      rfl
  | incremental supplied ran settles =>
      rcases settles.exists_eq_of_failed with ⟨cause', rfl, rfl⟩
      cases List.mem_singleton.1 member
      cases failed
      rfl
  | isolated carried materialized created ran settles =>
      rcases settles.exists_eq_of_failed with ⟨cause', rfl, rfl⟩
      rcases List.mem_pair.1 member with rfl | rfl
      · cases failed
      · cases failed
        rfl
  | notCreated carried materialized created =>
      cases List.mem_singleton.1 member
      cases failed
      rfl
  | withoutInputs => exact absurd member List.not_mem_nil
  | withoutParameters => exact absurd member List.not_mem_nil
  | notMaterialized => exact absurd member List.not_mem_nil

/-- Where an action succeeds, all user code has. -/
theorem Attempts.outcome_eq_succeeded
    (attempt : Attempts code configured inputs factory before exchanges .succeeded after)
    {exchange : Exchange Body Parameters}
    (member : exchange ∈ exchanges) :
    exchange.outcome = .succeeded := by
  cases attempt with
  | standard ran settles =>
      cases List.mem_singleton.1 member
      exact settles.eq_succeeded
  | incremental supplied ran settles =>
      cases List.mem_singleton.1 member
      exact settles.eq_succeeded
  | isolated carried materialized created ran settles =>
      rcases List.mem_pair.1 member with rfl | rfl
      · rfl
      · exact settles.eq_succeeded

namespace Course

theorem task_eq
    (course : Course code configured inputs factories before exchanges succeeded (.failed error)
      after) :
    error.task = configured.path := by
  generalize ended : ActionResult.failed error = result at course
  induction course with
  | finished world => cases ended
  | stopped attempt unsuccessful =>
      cases ended
      exact attempt.task_eq
  | succeeded attempt rest ih => exact ih ended

theorem source_eq
    (course : Course code configured inputs factories before exchanges succeeded (.failed error)
      after)
    {exchange : Exchange Body Parameters}
    (member : exchange ∈ exchanges)
    {cause : Cause}
    (failed : exchange.outcome = .failed cause) :
    error.source = some cause := by
  generalize ended : ActionResult.failed error = result at course
  induction course with
  | finished world => cases ended
  | stopped attempt unsuccessful =>
      cases ended
      exact attempt.source_eq member failed
  | succeeded attempt rest ih =>
      rcases List.mem_append.1 member with member | member
      · rw [attempt.outcome_eq_succeeded member] at failed
        cases failed
      · exact ih member ended

/-- The actions that succeed are the first ones, and all of them exactly if the result is a
success. -/
theorem exists_left
    (course : Course code configured inputs factories before exchanges succeeded result after) :
    ∃ left, factories = succeeded ++ left ∧ (result = .succeeded ↔ left = []) := by
  induction course with
  | finished world => exact ⟨[], rfl, Iff.intro (fun _ => rfl) fun _ => rfl⟩
  | @stopped factory later _ _ _ _ _ unsuccessful =>
      refine ⟨factory :: later, rfl, ?_⟩
      exact Iff.intro (fun success => absurd success unsuccessful) fun empty => nomatch empty
  | succeeded attempt rest ih =>
      rcases ih with ⟨left, parts, iff⟩
      exact ⟨left, congrArg (_ :: ·) parts, iff⟩

end Course

end Failures

/-! ## Sessions -/

/-- How an execution ends whose actions came to a result. -/
def ActionResult.completion (task : String) (names : List String) (incremental : Bool) :
    ActionResult → Completion
  | .succeeded => .finished ⟨task, names, incremental⟩
  | .failed error => .failed (.execution error)
  | .panicked => .panicked

/-- What executions on one executer go through. -/
structure Session (Body Parameters World : Type) where
  project : Project
  store : Store Body
  world : World
  /-- What was asked of user code so far. -/
  exchanges : List (Exchange Body Parameters)
  /-- Whether the lock was asked for while it was held. -/
  stuck : Bool

namespace Session

/-- A session after some exchanges with user code. -/
def later
    (session : Session Body Parameters World)
    (exchanges : List (Exchange Body Parameters))
    (world : World) :
    Session Body Parameters World :=
  { session with world := world, exchanges := session.exchanges ++ exchanges }

/-- A session after some actions of a task have succeeded and the lock has been released. -/
def past
    (session : Session Body Parameters World)
    (task : String)
    (succeeded : List (ActionFactory Body))
    (exchanges : List (Exchange Body Parameters))
    (world : World) :
    Session Body Parameters World :=
  { session with
    project :=
      ⟨false,
        session.project.completed ++ succeeded.map fun factory => ⟨task, factory.displayName⟩⟩
    world := world
    exchanges := session.exchanges ++ exchanges }

theorem later_nil (session : Session Body Parameters World) :
    session.later [] session.world = session := by
  simp [later]

/-- True if an execution can begin: the lock is free, and the store holds what it should. -/
structure Ready (types : Set (TaskType Body)) (session : Session Body Parameters World) : Prop where
  free : session.project.locked = false
  notStuck : session.stuck = false
  remembers : session.store.Remembers types

end Session

namespace UserCode

/-- How a session answers what an execution asks. -/
def host (code : UserCode Body Parameters World) :
    Host Body Parameters (Session Body Parameters World) where
  report _ session := session
  classInfo type session :=
    ((session.store.lookup type).1.result,
      { session with store := (session.store.lookup type).2 })
  acquire session :=
    { session with
      project := session.project.acquire
      stuck := session.stuck || session.project.locked }
  release session := { session with project := session.project.release }
  invoke method target inputs session :=
    let (outcome, world) := code.invoke method target inputs session.world
    (outcome, session.later [.invoked method target inputs outcome] world)
  snapshot parameters session := code.read parameters session.world
  create action parameters session :=
    let (outcome, world) := code.create action parameters session.world
    (outcome, session.later [.created action parameters outcome] world)
  perform action parameters session :=
    let (outcome, world) := code.perform action parameters session.world
    (outcome, session.later [.performed action parameters outcome] world)
  record task action session := { session with project := session.project.record task action }

theorem host_report
    (code : UserCode Body Parameters World)
    (event : Event)
    (session : Session Body Parameters World) :
    code.host.report event session = session :=
  rfl

/-- Runs an execution. -/
def execute
    (code : UserCode Body Parameters World)
    (execution : Execution Body Parameters)
    (session : Session Body Parameters World) :
    Completion × Session Body Parameters World :=
  execution.procedure.run code.host session

/-- What executions one after the other leave. -/
def executeAll (code : UserCode Body Parameters World) :
    List (Execution Body Parameters) → Session Body Parameters World →
      Session Body Parameters World
  | [], session => session
  | execution :: later, session => code.executeAll later (code.execute execution session).2

end UserCode

/-! ## An action that is run -/

section Running

variable
  (code : UserCode Body Parameters World)
  (configured : ConfiguredTask Body Parameters)
  (inputs : Option IncrementalInputs)

theorem settles_bodyResult (task action : String) (outcome : Outcome) :
    Settles task action outcome (ActionFactory.bodyResult task action outcome) := by
  cases outcome with
  | succeeded => exact .succeeded
  | failed cause => exact .failed cause
  | panicked => exact .panicked

theorem acquire_later_release
    {session : Session Body Parameters World}
    (held : session.project.locked = true)
    (exchanges : List (Exchange Body Parameters))
    (world : World) :
    code.host.acquire ((code.host.release session).later exchanges world) =
      session.later exchanges world := by
  rcases session with ⟨⟨locked, completed⟩, store, world', exchanges', stuck⟩
  cases held
  simp [UserCode.host, Session.later, Project.acquire, Project.release]

/-- An isolated action is created and run without the lock, which is held again afterwards. -/
theorem attempts_of_runUnlocked
    {typeName : String}
    {parameters : IsolatedParameters Parameters}
    {values : Parameters}
    {session : Session Body Parameters World}
    (held : session.project.locked = true)
    (carried : configured.parameters = some parameters)
    (materialized :
      parameters.action.materialize (code.read parameters session.world) = .decoded values) :
    ∃ exchanges result world,
      Attempts code configured inputs (.isolated typeName) session.world exchanges result world ∧
        ∀ {Result : Type} (next : ActionResult → Procedure Body Parameters Result),
          (ActionFactory.runUnlocked configured.path
                (.isolated typeName : ActionFactory Body).displayName parameters.action values
                next).run code.host session =
            (next result).run code.host (session.later exchanges world) := by
  cases created : code.create parameters.action values session.world with
  | mk outcome between =>
      have asked :
          code.host.create parameters.action values (code.host.release session) =
            (outcome,
              (code.host.release session).later
                [.created parameters.action values outcome] between) := by
        simp only [UserCode.host, created]
      cases outcome with
      | failed cause =>
          refine ⟨_, _, between, .notCreated carried materialized created, ?_⟩
          intro Result next
          rw [ActionFactory.runUnlocked, Procedure.run, Procedure.run, asked, Procedure.run,
            acquire_later_release code held]
      | panicked =>
          refine ⟨_, _, between, .panickedInCreate carried materialized created, ?_⟩
          intro Result next
          rw [ActionFactory.runUnlocked, Procedure.run, Procedure.run, asked, Procedure.run,
            acquire_later_release code held]
      | succeeded =>
          cases ran : code.perform parameters.action values between with
          | mk outcome after =>
              refine
                ⟨_, _, after, .isolated carried materialized created ran (settles_bodyResult _ _ _),
                  ?_⟩
              intro Result next
              have performed :
                  code.host.perform parameters.action values
                      ((code.host.release session).later
                        [.created parameters.action values .succeeded] between) =
                    (outcome,
                      (code.host.release session).later
                        [ .created parameters.action values .succeeded,
                          .performed parameters.action values outcome ] after) := by
                simp [UserCode.host, Session.later, ran]
              rw [ActionFactory.runUnlocked, Procedure.run, Procedure.run, asked, Procedure.run,
                performed, Procedure.run, acquire_later_release code held]

/-- An action is run with the lock held before and after, and whatever follows it goes on with its
result. -/
theorem attempts_of_run
    (factory : ActionFactory Body)
    {session : Session Body Parameters World}
    (held : session.project.locked = true) :
    ∃ exchanges result world,
      Attempts code configured inputs factory session.world exchanges result world ∧
        ∀ {Result : Type} (next : ActionResult → Procedure Body Parameters Result),
          (factory.attempt configured inputs next).run code.host session =
            (next result).run code.host (session.later exchanges world) := by
  cases factory with
  | standard typeName method =>
      exact ⟨_, _, _, .standard rfl (settles_bodyResult _ _ _), fun _ => rfl⟩
  | incremental typeName method =>
      cases inputs with
      | none =>
          refine ⟨[], _, session.world, .withoutInputs rfl, ?_⟩
          intro Result next
          rw [Session.later_nil]
          rfl
      | some changes =>
          exact ⟨_, _, _, .incremental rfl rfl (settles_bodyResult _ _ _), fun _ => rfl⟩
  | isolated typeName =>
      cases carried : configured.parameters with
      | none =>
          refine ⟨[], _, session.world, .withoutParameters carried, ?_⟩
          intro Result next
          rw [Session.later_nil, ActionFactory.attempt, carried]
      | some parameters =>
          cases materialized :
            parameters.action.materialize (code.read parameters session.world) with
          | refused cause =>
              refine ⟨[], _, session.world, .notMaterialized carried materialized, ?_⟩
              intro Result next
              rw [Session.later_nil, ActionFactory.attempt, carried]
              simp only [Procedure.run, UserCode.host, materialized]
          | panicked =>
              refine ⟨[], _, session.world, .panickedInDecoding carried materialized, ?_⟩
              intro Result next
              rw [Session.later_nil, ActionFactory.attempt, carried]
              simp only [Procedure.run, UserCode.host, materialized]
          | decoded values =>
              rcases attempts_of_runUnlocked code configured inputs held carried materialized with
                ⟨exchanges, result, world, attempt, ran⟩
              refine ⟨exchanges, result, world, attempt, ?_⟩
              intro Result next
              rw [← ran, ActionFactory.attempt, carried]
              simp only [Procedure.run, UserCode.host, materialized]

/-! ## Actions that are run -/

/-- Running the actions follows a course, and records the actions that succeed. -/
theorem course_of_runActions
    (incremental : Bool)
    (factories : List (ActionFactory Body)) :
    ∀ (done : List String) (session : Session Body Parameters World),
      session.project.locked = true →
        ∃ exchanges succeeded result world,
          Course code configured inputs factories session.world exchanges succeeded result world ∧
            (Executer.runActions configured inputs incremental done factories).run code.host
                session =
              (result.completion configured.path (done ++ succeeded.map ActionFactory.displayName)
                  incremental,
                session.past configured.path succeeded exchanges world) := by
  induction factories with
  | nil =>
      intro done session held
      refine ⟨[], [], .succeeded, session.world, .finished _, ?_⟩
      simp [Executer.runActions, Procedure.run, UserCode.host, ActionResult.completion,
        Session.past, Project.release]
  | cons factory later ih =>
      intro done session held
      rcases attempts_of_run code configured inputs factory held with
        ⟨exchanges, result, world, attempt, ran⟩
      rw [Executer.runActions, Procedure.run, UserCode.host_report, ran]
      cases result with
      | failed error =>
          have unsuccessful : ActionResult.failed error ≠ .succeeded := by rintro ⟨⟩
          refine ⟨exchanges, [], .failed error, world, .stopped attempt unsuccessful, ?_⟩
          simp [Procedure.run, UserCode.host, ActionResult.completion, Session.later, Session.past,
            Project.release]
      | panicked =>
          have unsuccessful : ActionResult.panicked ≠ .succeeded := by rintro ⟨⟩
          refine ⟨exchanges, [], .panicked, world, .stopped attempt unsuccessful, ?_⟩
          simp [Procedure.run, UserCode.host, ActionResult.completion, Session.later, Session.past,
            Project.release]
      | succeeded =>
          -- the actions that are left are run from the session that holds the new record
          have following :=
            ih (done ++ [factory.displayName])
              (code.host.record configured.path factory.displayName (session.later exchanges world))
              held
          rcases following with ⟨others, succeeded, result, world', course, rest⟩
          refine ⟨exchanges ++ others, factory :: succeeded, result, world', ?_, ?_⟩
          · exact .succeeded attempt course
          · rw [Procedure.run, rest]
            simp [UserCode.host, Session.later, Session.past, Project.record, List.append_assoc]

end Running

/-! ## Executions -/

section Executions

variable
  (code : UserCode Body Parameters World)
  {types : Set (TaskType Body)}
  {execution : Execution Body Parameters}
  {session : Session Body Parameters World}

/-- An execution of a task whose type builds follows a course of its actions. -/
theorem course_of_execute
    (ready : session.Ready types)
    (member : execution.configured.type ∈ types)
    {info : ClassInfo Body}
    (builds : ClassInfo.build execution.configured.type = .ok info) :
    ∃ exchanges succeeded result world,
      Course code execution.configured
          (Executer.effectiveInputs execution.settings info execution.inputs) info.factories
          session.world exchanges succeeded result world ∧
        code.execute execution session =
          (result.completion execution.configured.path
              (succeeded.map ActionFactory.displayName) info.incremental,
            { session with
              store := (session.store.lookup execution.configured.type).2 }.past
              execution.configured.path succeeded exchanges world) := by
  have answer : (code.host.classInfo execution.configured.type session).1 = .ok info :=
    (ready.remembers.result_lookup member).trans builds
  have held :
      (code.host.acquire (code.host.classInfo execution.configured.type session).2).project.locked =
        true :=
    rfl
  have following :=
    course_of_runActions code execution.configured
      (Executer.effectiveInputs execution.settings info execution.inputs) info.incremental
      info.factories [] _ held
  rcases following with ⟨exchanges, succeeded, result, world, course, ran⟩
  refine ⟨exchanges, succeeded, result, world, course, ?_⟩
  rw [List.nil_append] at ran
  simp only [UserCode.execute, Execution.procedure, Executer.execute, Procedure.run]
  rw [answer]
  simp only [Procedure.run]
  rw [ran]
  simp [UserCode.host, Session.past, Project.acquire, ready.free]

/-- An execution of a task whose type does not build does nothing but look it up. -/
theorem execute_of_invalid
    (ready : session.Ready types)
    (member : execution.configured.type ∈ types)
    {error : MetadataError}
    (invalid : ClassInfo.build execution.configured.type = .error error) :
    code.execute execution session =
      (.failed (.metadata error),
        { session with store := (session.store.lookup execution.configured.type).2 }) := by
  have answer : (code.host.classInfo execution.configured.type session).1 = .error error :=
    (ready.remembers.result_lookup member).trans invalid
  simp only [UserCode.execute, Execution.procedure, Executer.execute, Procedure.run]
  rw [answer]
  rfl

/-- However an execution ends, the next one can begin. -/
theorem Session.Ready.execute
    (distinct : types.InjOn TaskType.identity)
    (ready : session.Ready types)
    (member : execution.configured.type ∈ types) :
    (code.execute execution session).2.Ready types := by
  have remembers := ready.remembers.lookup distinct member
  cases built : ClassInfo.build execution.configured.type with
  | error error =>
      rw [execute_of_invalid code ready member built]
      exact ⟨ready.free, ready.notStuck, remembers⟩
  | ok info =>
      rcases course_of_execute code ready member built with
        ⟨exchanges, succeeded, result, world, -, ran⟩
      rw [ran]
      exact ⟨rfl, ready.notStuck, remembers⟩

theorem Session.Ready.executeAll
    (distinct : types.InjOn TaskType.identity)
    (executions : List (Execution Body Parameters))
    (known : ∀ other ∈ executions, other.configured.type ∈ types) :
    ∀ {session : Session Body Parameters World},
      session.Ready types → (code.executeAll executions session).Ready types := by
  induction executions with
  | nil => exact fun ready => ready
  | cons execution later ih =>
      intro session ready
      rcases List.forall_mem_cons.1 known with ⟨member, known⟩
      exact ih known (ready.execute code distinct member)

/-- The course of an execution after any other executions on the same executer.

What is asked of user code is what the course of its actions asks.  The records that are added are
those of the actions that succeeded.  It ends well exactly if no action is left, and then names them
all; otherwise it ends as the first action that did not succeed, whose error names the task and
keeps the cause with which user code failed.  In every case the lock is free afterwards, was never
waited for in vain, and the next execution can begin. -/
theorem UserCode.execute_course
    (distinct : types.InjOn TaskType.identity)
    {start : Session Body Parameters World}
    (ready : start.Ready types)
    (earlier : List (Execution Body Parameters))
    (known : ∀ other ∈ earlier, other.configured.type ∈ types)
    (execution : Execution Body Parameters)
    (member : execution.configured.type ∈ types)
    {info : ClassInfo Body}
    (builds : ClassInfo.build execution.configured.type = .ok info) :
    let before := code.executeAll earlier start
    let completion := (code.execute execution before).1
    let after := (code.execute execution before).2
    after.Ready types ∧
      ∃ exchanges succeeded left result,
        Course code execution.configured
            (Executer.effectiveInputs execution.settings info execution.inputs) info.factories
            before.world exchanges succeeded result after.world ∧
          info.factories = succeeded ++ left ∧
          after.exchanges = before.exchanges ++ exchanges ∧
          after.project.completed =
            before.project.completed ++ succeeded.map execution.entry ∧
          match result with
          | .succeeded =>
              left = [] ∧
                completion =
                  .finished
                    ⟨execution.configured.path, info.factories.map ActionFactory.displayName,
                      info.incremental⟩
          | .failed error =>
              left ≠ [] ∧
                completion = .failed (.execution error) ∧
                error.task = execution.configured.path ∧
                ∀ exchange ∈ exchanges, ∀ cause,
                  exchange.outcome = .failed cause → error.source = some cause
          | .panicked =>
              left ≠ [] ∧
                completion = .panicked ∧
                ∀ notice,
                  completion.report notice =
                    .error (.internal ("Task execution worker failed: " ++ notice)) := by
  intro before completion after
  have readyBefore : before.Ready types := ready.executeAll code distinct earlier known
  refine ⟨readyBefore.execute code distinct member, ?_⟩
  rcases course_of_execute code readyBefore member builds with
    ⟨exchanges, succeeded, result, world, course, ran⟩
  rcases course.exists_left with ⟨left, parts, success⟩
  have ended : completion = _ := congrArg Prod.fst ran
  have state : after = _ := congrArg Prod.snd ran
  refine ⟨exchanges, succeeded, left, result, ?course, parts, ?exchanges, ?records, ?result⟩
  case course =>
    rw [state]
    exact course
  case exchanges => rw [state, Session.past]
  case records =>
    rw [state, Session.past]
    rfl
  case result =>
    rw [ended]
    cases result with
    | succeeded =>
        have none : left = [] := success.1 rfl
        rw [none, List.append_nil] at parts
        rw [parts]
        exact ⟨none, rfl⟩
    | failed error =>
        have some : left ≠ [] := fun none => nomatch success.2 none
        exact ⟨some, rfl, course.task_eq, fun exchange present cause => course.source_eq present⟩
    | panicked =>
        have some : left ≠ [] := fun none => nomatch success.2 none
        exact ⟨some, rfl, fun _ => rfl⟩

end Executions

/-! ## A failure after a panic -/

namespace Packing

/-- Bodies that end as they are told to, and are counted. -/
def code : UserCode Outcome Unit Nat where
  invoke method _ _ count := (method.body, count + 1)
  read _ _ := .null
  create _ _ count := (.succeeded, count + 1)
  perform _ _ count := (.succeeded, count + 1)

/-- Why the archive cannot be filled. -/
def diskFull : Cause := ⟨"disk full", ["no space left"]⟩

/-- A type whose only action panics. -/
def crash : TaskType Outcome :=
  { own := ⟨⟨1⟩, "Crash", false, false, [.standard "run" .panicked]⟩
    ancestors := [] }

/-- A type whose second action fails. -/
def pack : TaskType Outcome :=
  { own :=
      ⟨⟨2⟩, "Pack", false, false,
        [ .standard "open" .succeeded, .incremental "fill" (.failed diskFull),
          .standard "close" .succeeded ]⟩
    ancestors := [] }

/-- The execution of a task of one of the types. -/
def executionOf (type : TaskType Outcome) : Execution Outcome Unit :=
  { settings := .default
    configured := ⟨⟨type.identity, ":" ++ type.name⟩, type, none⟩
    inputs := some .rebuild }

/-- An executer on which nothing has been executed. -/
def start : Session Outcome Unit Nat := ⟨.fresh, .empty, 0, [], false⟩

/-- The actions of a task of the second type. -/
def packing : ClassInfo Outcome where
  typeName := "Pack"
  cacheable := false
  incremental := true
  factories :=
    [ .standard "Pack" (.standard "open" .succeeded),
      .incremental "Pack" (.incremental "fill" (.failed diskFull)),
      .standard "Pack" (.standard "close" .succeeded) ]

/-- After a task that panicked, the actions of the next one are run up to the one that fails. -/
theorem failure_after_panic :
    Set.InjOn TaskType.identity {crash, pack} ∧
      start.Ready {crash, pack} ∧
      ClassInfo.build pack = .ok packing ∧
      let before := code.executeAll [executionOf crash] start
      let after := (code.execute (executionOf pack) before).2
      after.Ready {crash, pack} ∧
        after.project.completed = [⟨":Pack", "Pack.open()"⟩] ∧
        ∃ exchanges succeeded left,
          packing.factories = succeeded ++ left ∧
            left ≠ [] ∧
            Course code (executionOf pack).configured (some .rebuild) packing.factories 1 exchanges
              succeeded (.failed (.actionFailed ":Pack" "Pack.fill()" diskFull)) after.world ∧
            after.exchanges.length = 1 + exchanges.length := by
  have distinct : Set.InjOn TaskType.identity {crash, pack} := by
    rintro _ (rfl | rfl) _ (rfl | rfl) same
    · rfl
    · exact absurd same (by decide)
    · exact absurd same (by decide)
    · rfl
  have ready : start.Ready {crash, pack} := ⟨rfl, rfl, Store.remembers_empty _⟩
  have known :
      ∀ other ∈ [executionOf crash],
        other.configured.type ∈ ({crash, pack} : Set (TaskType Outcome)) := by
    intro other member
    cases List.mem_singleton.1 member
    exact .inl rfl
  have builds : ClassInfo.build pack = .ok packing := rfl
  refine ⟨distinct, ready, builds, ?_⟩
  intro before after
  have executed :=
    UserCode.execute_course code distinct ready [executionOf crash] known (executionOf pack)
      (.inr rfl) builds
  rcases executed with
    ⟨readyAfter, exchanges, succeeded, left, result, course, parts, asked, -, ended⟩
  have completion :
      (code.execute (executionOf pack) before).1 =
        .failed (.execution (.actionFailed ":Pack" "Pack.fill()" diskFull)) :=
    rfl
  refine ⟨readyAfter, rfl, exchanges, succeeded, left, parts, ?_⟩
  cases result with
  | succeeded => cases completion.symm.trans ended.2
  | panicked => cases completion.symm.trans ended.2.1
  | failed error =>
      rcases ended with ⟨some, failed, -⟩
      cases completion.symm.trans failed
      refine ⟨some, course, ?_⟩
      have length := congrArg List.length asked
      rw [List.length_append] at length
      exact length

end Packing

end TaskDispatch
