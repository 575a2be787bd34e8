import TaskDispatch.Proofs.Execution.Accounts
import TaskDispatch.Proofs.Execution.Course

/-!
# What an execution comes to

User code is *steady* if how it ends depends on what it is asked and not on the state of the world.
The world is still its to change, and the bodies of a task may change the live parameters of the
task, if what is then read of them depends on these bodies only.  What an execution comes to is
settled before it begins: its result, its records, and in how many steps it is done.  This is its
`Prospect`.

A prospect is told in a world of its own.  As long as an execution holds the lock for the first
time, its own bodies are the only ones that are run, so the world of the prospect and the world as
it is have come from the same bodies (`Duty.Alike`).  A step of a procedure therefore takes its
prospect one step further, and a procedure that is run from beginning to end comes to its prospect.
-/

namespace TaskDispatch

variable {Body Parameters Result World : Type}

/-! ## Steady user code -/

/-- True of a world in which these bodies of a task have been run last, one after the other and with
success, and no others.  Isolated actions may have been created and run in the meantime. -/
inductive UserCode.Leaves
    (code : UserCode Body Parameters World)
    (worlds : Set World)
    (configured : ConfiguredTask Body Parameters) :
    List (ActionMethod Body × Option IncrementalInputs) → World → Prop where
  | begin {world : World} (possible : world ∈ worlds) : Leaves code worlds configured [] world
  | invoked
      {done : List (ActionMethod Body × Option IncrementalInputs)}
      {world : World}
      {method : ActionMethod Body}
      {inputs : Option IncrementalInputs}
      (leaves : Leaves code worlds configured done world)
      (succeeded : (code.invoke method configured inputs world).1 = .succeeded) :
      Leaves code worlds configured (done ++ [(method, inputs)])
        (code.invoke method configured inputs world).2
  | created
      {done : List (ActionMethod Body × Option IncrementalInputs)}
      {world : World}
      (leaves : Leaves code worlds configured done world)
      (action : IsolatedAction Parameters)
      (parameters : Parameters) :
      Leaves code worlds configured done (code.create action parameters world).2
  | performed
      {done : List (ActionMethod Body × Option IncrementalInputs)}
      {world : World}
      (leaves : Leaves code worlds configured done world)
      (action : IsolatedAction Parameters)
      (parameters : Parameters) :
      Leaves code worlds configured done (code.perform action parameters world).2

/-- True of user code whose outcomes do not depend on the world, as long as it is one of these. -/
structure UserCode.Steady
    (code : UserCode Body Parameters World)
    (types : Set (TaskType Body))
    (worlds : Set World) :
    Prop where
  invoke :
    ∀ method target inputs, ∀ world ∈ worlds, ∀ world' ∈ worlds,
      (code.invoke method target inputs world).1 = (code.invoke method target inputs world').1
  create :
    ∀ action parameters, ∀ world ∈ worlds, ∀ world' ∈ worlds,
      (code.create action parameters world).1 = (code.create action parameters world').1
  perform :
    ∀ action parameters, ∀ world ∈ worlds, ∀ world' ∈ worlds,
      (code.perform action parameters world).1 = (code.perform action parameters world').1
  /-- What is read of the live parameters of a task, of one of these types, is what its own bodies
  have made of them. -/
  read :
    ∀ configured parameters info declared typeName done world world',
      configured.type ∈ types →
      configured.parameters = some parameters →
      ClassInfo.build configured.type = .ok info →
      info.factories = declared ++ [.isolated typeName] →
      done.map Prod.fst = declared.filterMap ActionFactory.method? →
      code.Leaves worlds configured done world →
      code.Leaves worlds configured done world' →
        code.read parameters world = code.read parameters world'
  invoke_mem :
    ∀ method target inputs, ∀ world ∈ worlds, (code.invoke method target inputs world).2 ∈ worlds
  create_mem :
    ∀ action parameters, ∀ world ∈ worlds, (code.create action parameters world).2 ∈ worlds
  perform_mem :
    ∀ action parameters, ∀ world ∈ worlds, (code.perform action parameters world).2 ∈ worlds

/-- The records of an act. -/
def Act.entries : Act Body → List CompletedAction
  | .recorded entry => [entry]
  | _ => []

namespace Procedure

/-- How user code answers the next request of a procedure, how the procedure goes on, and the world
that is left.  To look a type up is not a matter of user code. -/
def reply?
    (code : UserCode Body Parameters World)
    (world : World) :
    Procedure Body Parameters Result →
      Option (Act Body × Procedure Body Parameters Result × World)
  | .done _ => none
  | .report event next => some (.reported event, next, world)
  | .classInfo _ _ => none
  | .acquire next => some (.acquired, next, world)
  | .release next => some (.released, next, world)
  | .invoke method target inputs next =>
      let answer := code.invoke method target inputs world
      some (.invoked method answer.1, next answer.1, answer.2)
  | .snapshot parameters next =>
      let values := code.read parameters world
      some (.read values, next values, world)
  | .create action parameters next =>
      let answer := code.create action parameters world
      some (.created answer.1, next answer.1, answer.2)
  | .perform action parameters next =>
      let answer := code.perform action parameters world
      some (.performed answer.1, next answer.1, answer.2)
  | .record task action next => some (.recorded ⟨task, action⟩, next, world)

theorem takes_of_reply?
    {code : UserCode Body Parameters World}
    {world after : World}
    {procedure rest : Procedure Body Parameters Result}
    {act : Act Body}
    (replied : procedure.reply? code world = some (act, rest, after)) :
    procedure.Takes act rest := by
  cases procedure with
  | done result => cases replied
  | classInfo type next => cases replied
  | report event next =>
      cases replied
      exact .report
  | acquire next =>
      cases replied
      exact .acquire
  | release next =>
      cases replied
      exact .release
  | invoke method target inputs next =>
      cases replied
      exact .invoke _
  | snapshot parameters next =>
      cases replied
      exact .snapshot _
  | create action parameters next =>
      cases replied
      exact .create _
  | perform action parameters next =>
      cases replied
      exact .perform _
  | record task action next =>
      cases replied
      exact .record

end Procedure

/-- What a procedure comes to. -/
structure Prospect (Result : Type) where
  result : Result
  records : List CompletedAction
  /-- How many steps are left.  To look a type up takes two. -/
  steps : Nat

/-- A prospect before these records were made in these steps. -/
def Prospect.before
    (records : List CompletedAction)
    (steps : Nat)
    (prospect : Prospect Result) :
    Prospect Result :=
  ⟨prospect.result, records ++ prospect.records, steps + prospect.steps⟩

namespace Procedure

/-- What a procedure comes to if user code answers in this world, and in what it makes of it. -/
def prospect
    (code : UserCode Body Parameters World)
    (world : World) :
    Procedure Body Parameters Result → Prospect Result
  | .done result => ⟨result, [], 0⟩
  | .report _ next => (prospect code world next).before [] 1
  | .classInfo type next => (prospect code world (next (ClassInfo.build type))).before [] 2
  | .acquire next => (prospect code world next).before [] 1
  | .release next => (prospect code world next).before [] 1
  | .invoke method target inputs next =>
      let answer := code.invoke method target inputs world
      (prospect code answer.2 (next answer.1)).before [] 1
  | .snapshot parameters next =>
      (prospect code world (next (code.read parameters world))).before [] 1
  | .create action parameters next =>
      let answer := code.create action parameters world
      (prospect code answer.2 (next answer.1)).before [] 1
  | .perform action parameters next =>
      let answer := code.perform action parameters world
      (prospect code answer.2 (next answer.1)).before [] 1
  | .record task action next => (prospect code world next).before [⟨task, action⟩] 1

end Procedure

/-! ## Procedures and the task they are about -/

namespace Procedure

/-- True of a procedure that runs no bodies but on this task, and reads no live parameters but those
of the task. -/
def Concerns (configured : ConfiguredTask Body Parameters) :
    Procedure Body Parameters Result → Prop
  | .done _ => True
  | .report _ next => Concerns configured next
  | .classInfo type next => Concerns configured (next (ClassInfo.build type))
  | .acquire next => Concerns configured next
  | .release next => Concerns configured next
  | .invoke _ target _ next => target = configured ∧ ∀ outcome, Concerns configured (next outcome)
  | .snapshot parameters next =>
      configured.parameters = some parameters ∧ ∀ values, Concerns configured (next values)
  | .create _ _ next => ∀ outcome, Concerns configured (next outcome)
  | .perform _ _ next => ∀ outcome, Concerns configured (next outcome)
  | .record _ _ next => Concerns configured next

theorem Concerns.step
    {configured : ConfiguredTask Body Parameters}
    {procedure rest : Procedure Body Parameters Result}
    {act : Act Body}
    (concerns : procedure.Concerns configured)
    (takes : procedure.Takes act rest) :
    rest.Concerns configured := by
  cases takes with
  | report => exact concerns
  | classInfo => exact concerns
  | acquire => exact concerns
  | release => exact concerns
  | invoke outcome => exact concerns.2 outcome
  | snapshot values => exact concerns.2 values
  | create outcome => exact concerns outcome
  | perform outcome => exact concerns outcome
  | record => exact concerns

end Procedure

/-- An action concerns the task if whatever follows it does. -/
theorem ActionFactory.concerns_attempt
    {configured : ConfiguredTask Body Parameters}
    {next : ActionResult → Procedure Body Parameters Result}
    (onward : ∀ result, (next result).Concerns configured)
    (inputs : Option IncrementalInputs)
    (factory : ActionFactory Body) :
    (factory.attempt configured inputs next).Concerns configured := by
  cases factory with
  | standard typeName method => exact ⟨rfl, fun _ => onward _⟩
  | incremental typeName method =>
      cases inputs with
      | none => exact onward _
      | some changes => exact ⟨rfl, fun _ => onward _⟩
  | isolated typeName =>
      unfold attempt
      cases carried : configured.parameters with
      | none => exact onward _
      | some parameters =>
          refine ⟨carried, ?_⟩
          intro values
          dsimp only
          cases parameters.action.materialize values with
          | refused cause => exact onward _
          | panicked => exact onward _
          | decoded materialized =>
              intro created
              cases created with
              | failed cause => exact onward _
              | panicked => exact onward _
              | succeeded => exact fun _ => onward _

theorem Executer.concerns_runActions
    (configured : ConfiguredTask Body Parameters)
    (inputs : Option IncrementalInputs)
    (incremental : Bool)
    (done : List String)
    (factories : List (ActionFactory Body)) :
    (runActions configured inputs incremental done factories).Concerns configured := by
  induction factories generalizing done with
  | nil => trivial
  | cons factory later ih =>
      apply ActionFactory.concerns_attempt
      intro result
      cases result with
      | succeeded => exact ih _
      | failed error => trivial
      | panicked => trivial

/-- An execution concerns its task. -/
theorem Execution.concerns_procedure (execution : Execution Body Parameters) :
    execution.procedure.Concerns execution.configured := by
  unfold Execution.procedure Executer.execute Procedure.Concerns
  cases ClassInfo.build execution.configured.type with
  | error error => trivial
  | ok info => exact Executer.concerns_runActions _ _ _ _ _

/-! ## Worlds that come from the same bodies -/

section Worlds

variable
  {code : UserCode Body Parameters World}
  {types : Set (TaskType Body)}
  {worlds : Set World}
  {configured : ConfiguredTask Body Parameters}

/-- True of two worlds in which the same bodies of a task have been run, those of all actions but
the ones left. -/
def UserCode.SameBodies
    (code : UserCode Body Parameters World)
    (worlds : Set World)
    (configured : ConfiguredTask Body Parameters)
    (left : List (ActionFactory Body))
    (world world' : World) :
    Prop :=
  ∃ info declared done,
    ClassInfo.build configured.type = .ok info ∧
      info.factories = declared ++ left ∧
      done.map Prod.fst = declared.filterMap ActionFactory.method? ∧
      code.Leaves worlds configured done world ∧
      code.Leaves worlds configured done world'

/-- What is true of two worlds in which an execution of a task has the same duty.  Without the lock
there is nothing that it asks of them. -/
def Duty.Alike
    (code : UserCode Body Parameters World)
    (worlds : Set World)
    (configured : ConfiguredTask Body Parameters)
    (world world' : World) :
    Duty Body → Prop
  | .waiting left => ∃ info, ClassInfo.build configured.type = .ok info ∧ info.factories = left
  | .acting left => code.SameBodies worlds configured left world world'
  | .owing factory left =>
      factory.isDeclared = true → code.SameBodies worlds configured left world world'
  | _ => True

theorem Duty.alike_of_found
    {duty later : Duty Body}
    {answer : ClassInfoResult Body}
    (moves : Moves configured duty (.found answer) later)
    (world world' : World) :
    later.Alike code worlds configured world world' := by
  cases moves with
  | refuse => trivial
  | find built => exact ⟨_, built, rfl⟩

/-- Before the first action no body has been run in either world. -/
theorem UserCode.sameBodies_begin
    {world world' : World}
    {info : ClassInfo Body}
    (built : ClassInfo.build configured.type = .ok info)
    (possible : world ∈ worlds)
    (possible' : world' ∈ worlds) :
    code.SameBodies worlds configured info.factories world world' :=
  ⟨info, [], [], built, rfl, rfl, .begin possible, .begin possible'⟩

/-- After all bodies the same is read of the live parameters in both worlds. -/
theorem UserCode.Steady.read_of_sameBodies
    {world world' : World}
    {parameters : IsolatedParameters Parameters}
    {typeName : String}
    (steady : code.Steady types worlds)
    (member : configured.type ∈ types)
    (carried : configured.parameters = some parameters)
    (same : code.SameBodies worlds configured [.isolated typeName] world world') :
    code.read parameters world = code.read parameters world' := by
  rcases same with ⟨info, declared, done, built, parts, bodies, leaves, leaves'⟩
  exact
    steady.read configured parameters info declared typeName done world world' member carried built
      parts bodies leaves leaves'

/-- One more body is run in both worlds. -/
theorem UserCode.SameBodies.invoke
    {world world' : World}
    {factory : ActionFactory Body}
    {left : List (ActionFactory Body)}
    {method : ActionMethod Body}
    {inputs : Option IncrementalInputs}
    (same : code.SameBodies worlds configured (factory :: left) world world')
    (declared : factory.method? = some method)
    (succeeded : (code.invoke method configured inputs world).1 = .succeeded)
    (succeeded' : (code.invoke method configured inputs world').1 = .succeeded) :
    code.SameBodies worlds configured left (code.invoke method configured inputs world).2
      (code.invoke method configured inputs world').2 := by
  rcases same with ⟨info, earlier, done, built, parts, bodies, leaves, leaves'⟩
  refine
    ⟨info, earlier ++ [factory], done ++ [(method, inputs)], built, ?_, ?_,
      leaves.invoked succeeded, leaves'.invoked succeeded'⟩
  · rw [parts, List.append_assoc, List.singleton_append]
  · simp [bodies, declared]

end Worlds

/-- No way of duties leads back to where the type has not been looked up. -/
theorem Duty.Moves.ne_looking
    {configured : ConfiguredTask Body Parameters}
    {duty after : Duty Body}
    {act : Act Body}
    (moves : Moves configured duty act after) :
    after ≠ .looking := by
  cases moves <;> exact nofun

theorem Duty.Moves.eq_looking_of_found
    {configured : ConfiguredTask Body Parameters}
    {duty after : Duty Body}
    {answer : ClassInfoResult Body}
    (moves : Moves configured duty (.found answer) after) :
    duty = .looking := by
  cases moves <;> rfl

theorem Duty.Moves.holds_of_invoked
    {configured : ConfiguredTask Body Parameters}
    {duty after : Duty Body}
    {method : ActionMethod Body}
    {outcome : Outcome}
    (moves : Moves configured duty (.invoked method outcome) after) :
    duty.Holds := by
  cases moves <;> trivial

section Steps

variable
  {code : UserCode Body Parameters World}
  {types : Set (TaskType Body)}
  {worlds : Set World}
  {configured : ConfiguredTask Body Parameters}
  {procedure rest : Procedure Body Parameters Result}
  {act : Act Body}
  {duty later : Duty Body}
  {origin world after : World}

theorem UserCode.Steady.mem_of_reply?
    (steady : code.Steady types worlds)
    (possible : world ∈ worlds)
    (replied : procedure.reply? code world = some (act, rest, after)) :
    after ∈ worlds := by
  cases procedure with
  | done result => cases replied
  | classInfo type next => cases replied
  | invoke method target inputs next =>
      cases replied
      exact steady.invoke_mem method target inputs world possible
  | create action parameters next =>
      cases replied
      exact steady.create_mem action parameters world possible
  | perform action parameters next =>
      cases replied
      exact steady.perform_mem action parameters world possible
  | _ =>
      cases replied
      exact possible

/-- Nothing but a body that is run changes which bodies have been run. -/
theorem UserCode.Leaves.of_reply?
    {done : List (ActionMethod Body × Option IncrementalInputs)}
    (leaves : code.Leaves worlds configured done world)
    (replied : procedure.reply? code world = some (act, rest, after))
    (noBody : ∀ method outcome, act ≠ .invoked method outcome) :
    code.Leaves worlds configured done after := by
  cases procedure with
  | done result => cases replied
  | classInfo type next => cases replied
  | invoke method target inputs next =>
      cases replied
      exact absurd rfl (noBody _ _)
  | create action parameters next =>
      cases replied
      exact leaves.created action parameters
  | perform action parameters next =>
      cases replied
      exact leaves.performed action parameters
  | _ =>
      cases replied
      exact leaves

/-- What another execution does leaves an execution with what is asked of its worlds, if no body is
run that does not belong to it while it holds the lock. -/
theorem Duty.Alike.of_reply?
    (alike : duty.Alike code worlds configured origin world)
    (replied : procedure.reply? code world = some (act, rest, after))
    (apart : duty.Holds → ∀ method outcome, act ≠ .invoked method outcome) :
    duty.Alike code worlds configured origin after := by
  have onward {left : List (ActionFactory Body)}
      (holds : duty.Holds)
      (same : code.SameBodies worlds configured left origin world) :
      code.SameBodies worlds configured left origin after := by
    rcases same with ⟨info, earlier, done, built, parts, bodies, leaves, leaves'⟩
    exact
      ⟨info, earlier, done, built, parts, bodies, leaves, leaves'.of_reply? replied (apart holds)⟩
  cases duty with
  | waiting left => exact alike
  | acting left => exact onward trivial alike
  | owing factory left => exact fun declared => onward trivial (alike declared)
  | _ => trivial

/-- A step takes the prospect one step further, and leaves two worlds that are alike. -/
theorem Procedure.prospect_of_reply?
    (steady : code.Steady types worlds)
    (member : configured.type ∈ types)
    (begun : origin ∈ worlds)
    (possible : world ∈ worlds)
    (alike : duty.Alike code worlds configured origin world)
    (concerns : procedure.Concerns configured)
    (replied : procedure.reply? code world = some (act, rest, after))
    (moves : Duty.Moves configured duty act later) :
    ∃ elsewhere ∈ worlds,
      later.Alike code worlds configured elsewhere after ∧
        procedure.prospect code origin =
          (rest.prospect code elsewhere).before act.entries 1 := by
  cases procedure with
  | done result => cases replied
  | classInfo type next => cases replied
  | report event next =>
      cases replied
      refine ⟨origin, begun, ?_, rfl⟩
      cases moves <;> exact alike
  | acquire next =>
      cases replied
      refine ⟨origin, begun, ?_, rfl⟩
      cases moves with
      | acquire =>
          rcases alike with ⟨info, built, rfl⟩
          exact UserCode.sameBodies_begin built begun possible
      | comeBack => exact nofun
      | giveUp => trivial
  | release next =>
      cases replied
      refine ⟨origin, begun, ?_, rfl⟩
      cases moves <;> trivial
  | invoke method target inputs next =>
      rcases concerns with ⟨rfl, -⟩
      have outcomes := steady.invoke method target inputs origin begun world possible
      refine
        ⟨(code.invoke method target inputs origin).2,
          steady.invoke_mem method target inputs origin begun, ?_, ?_⟩
      · cases replied
        generalize ended : (code.invoke method target inputs world).1 = outcome at moves outcomes
        cases moves with
        | succeed declared => exact fun _ => alike.invoke declared outcomes ended
        | fail unsuccessful => trivial
      · cases replied
        rw [prospect, outcomes]
        rfl
  | snapshot parameters next =>
      cases replied
      refine ⟨origin, begun, ?_, ?_⟩
      · cases moves with
        | read => exact alike
      · cases moves with
        | read =>
            rw [prospect, steady.read_of_sameBodies member concerns.1 alike]
            rfl
  | create action parameters next =>
      have outcomes := steady.create action parameters origin begun world possible
      refine
        ⟨(code.create action parameters origin).2,
          steady.create_mem action parameters origin begun, ?_, ?_⟩
      · cases replied
        generalize (code.create action parameters world).1 = outcome at moves
        cases moves <;> trivial
      · cases replied
        rw [prospect, outcomes]
        rfl
  | perform action parameters next =>
      have outcomes := steady.perform action parameters origin begun world possible
      refine
        ⟨(code.perform action parameters origin).2,
          steady.perform_mem action parameters origin begun, ?_, ?_⟩
      · cases replied
        generalize (code.perform action parameters world).1 = outcome at moves
        cases moves <;> trivial
      · cases replied
        rw [prospect, outcomes]
        rfl
  | record task action next =>
      cases replied
      refine ⟨origin, begun, ?_, rfl⟩
      cases moves with
      | record declared => exact alike declared
      | recordLast => trivial

end Steps

/-- True of an execution that ends and leaves the log as its prospect says. -/
structure Prospect.Fulfilled
    (prospect : Prospect Result)
    (session : Session Body Parameters World)
    (ran : Result × Session Body Parameters World) :
    Prop where
  result : ran.1 = prospect.result
  completed : ran.2.project.completed = session.project.completed ++ prospect.records

section Running

variable {code : UserCode Body Parameters World}
variable {session : Session Body Parameters World}

/-- A request that leaves the log as it is does not change what is fulfilled. -/
theorem Prospect.Fulfilled.before
    {prospect : Prospect Result}
    {later : Session Body Parameters World}
    {ran : Result × Session Body Parameters World}
    (fulfilled : prospect.Fulfilled later ran)
    {records : List CompletedAction}
    (completed : later.project.completed = session.project.completed ++ records)
    (steps : Nat) :
    (prospect.before records steps).Fulfilled session ran where
  result := fulfilled.result
  completed := by rw [fulfilled.completed, completed, List.append_assoc, Prospect.before]

variable {types : Set (TaskType Body)} {worlds : Set World}

/-- To run a procedure is to answer its next request, and to run the rest. -/
theorem Procedure.run_of_reply?
    {procedure rest : Procedure Body Parameters Result}
    {act : Act Body}
    {after : World}
    (replied : procedure.reply? code session.world = some (act, rest, after)) :
    ∃ later : Session Body Parameters World,
      later.world = after ∧
        later.project.completed = session.project.completed ++ act.entries ∧
        procedure.run code.host session = rest.run code.host later := by
  have same : session.project.completed = session.project.completed ++ [] :=
    (List.append_nil _).symm
  cases procedure with
  | done result => cases replied
  | classInfo type next => cases replied
  | report event next =>
      cases replied
      exact ⟨session, rfl, same, rfl⟩
  | acquire next =>
      cases replied
      exact ⟨code.host.acquire session, rfl, same, rfl⟩
  | release next =>
      cases replied
      exact ⟨code.host.release session, rfl, same, rfl⟩
  | invoke method target inputs next =>
      cases replied
      exact ⟨(code.host.invoke method target inputs session).2, rfl, same, rfl⟩
  | snapshot parameters next =>
      cases replied
      exact ⟨session, rfl, same, rfl⟩
  | create action parameters next =>
      cases replied
      exact ⟨(code.host.create action parameters session).2, rfl, same, rfl⟩
  | perform action parameters next =>
      cases replied
      exact ⟨(code.host.perform action parameters session).2, rfl, same, rfl⟩
  | record task action next =>
      cases replied
      exact ⟨code.host.record task action session, rfl, rfl, rfl⟩

/-- A procedure that looks no type up comes to its prospect. -/
theorem Procedure.run_fulfills
    (steady : code.Steady types worlds)
    {configured : ConfiguredTask Body Parameters}
    (member : configured.type ∈ types)
    {procedure : Procedure Body Parameters Result}
    {duty : Duty Body}
    (follows : Duty.Follows configured duty procedure)
    (concerns : procedure.Concerns configured)
    (looked : duty ≠ .looking)
    {origin : World}
    (begun : origin ∈ worlds)
    (possible : session.world ∈ worlds)
    (alike : duty.Alike code worlds configured origin session.world) :
    (procedure.prospect code origin).Fulfilled session (procedure.run code.host session) := by
  generalize counted : (procedure.prospect code origin).steps = steps
  induction steps using Nat.strong_induction_on generalizing procedure duty origin session with
  | _ steps ih =>
      cases replied : procedure.reply? code session.world with
      | none =>
          cases procedure with
          | done result => exact ⟨rfl, (List.append_nil _).symm⟩
          | classInfo type next =>
              rcases follows with ⟨after, moves, -⟩
              exact absurd moves.eq_looking_of_found looked
          | _ => cases replied
      | some answer =>
          rcases answer with ⟨act, rest, after⟩
          have takes := takes_of_reply? replied
          rcases follows.step takes with ⟨next, moves, onward⟩
          rcases prospect_of_reply? steady member begun possible alike concerns replied moves with
            ⟨elsewhere, stillBegun, stillAlike, prospect⟩
          have stillPossible := steady.mem_of_reply? possible replied
          rcases run_of_reply? replied with ⟨later, rfl, completed, ran⟩
          have fewer : (rest.prospect code elsewhere).steps < steps := by
            rw [← counted, prospect, Prospect.before]
            exact Nat.lt_add_of_pos_left Nat.one_pos
          rw [prospect, ran]
          exact
            (ih _ fewer onward (concerns.step takes) moves.ne_looking stillBegun stillPossible
              stillAlike rfl).before completed 1

/-- An execution on an executer of its own comes to its prospect. -/
theorem UserCode.execute_fulfills
    (steady : code.Steady types worlds)
    {origin : World}
    (begun : origin ∈ worlds)
    (ready : session.Ready types)
    (possible : session.world ∈ worlds)
    (execution : Execution Body Parameters)
    (member : execution.configured.type ∈ types) :
    (execution.procedure.prospect code origin).Fulfilled session
      (code.execute execution session) := by
  rcases execution.follows_procedure with ⟨duty, moves, follows⟩
  have looked (later : Session Body Parameters World) (world : later.world ∈ worlds) :=
    Procedure.run_fulfills steady member follows execution.concerns_procedure moves.ne_looking
      begun world (Duty.alike_of_found moves _ later.world)
  have answer :
      (code.host.classInfo execution.configured.type session).1 =
        ClassInfo.build execution.configured.type :=
    ready.remembers.result_lookup member
  simp only [UserCode.execute, Execution.procedure, Executer.execute, Procedure.run]
  rw [answer]
  let later := (code.host.classInfo execution.configured.type session).2
  have unlogged : later.project.completed = session.project.completed ++ [] :=
    (List.append_nil _).symm
  exact (looked later possible).before unlogged 2

end Running

end TaskDispatch
