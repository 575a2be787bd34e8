import TaskDispatch.Proofs.Execution.Interleaving

/-!
# The lock around an isolated action

A worker that runs the isolated action of a type holds the project lock.  It reads the live
parameters, gives the lock up while the action is created and run, and has it back at the end.
While the lock is not its own, any number of others take it and give it back, at any moment.

`Procedure.Always` carries a property of a procedure and of the acts that led there along everything
the procedure can go through.  For an isolated action that property is `AtRequest`: what has been
done, exactly, whenever it asks for something.  Who holds the lock is argued from the acts alone
(`Handover.Reachable.worker_iff`), and the two together give `Handover.Disciplined`.
-/

namespace TaskDispatch

variable {Body Parameters Result User : Type}

/-! ## What always holds of a procedure -/

namespace Procedure

/-- True if something holds of a procedure whenever it asks for something and when it is done,
together with the acts that led there. -/
def Always (Holds : List (Act Body) → Procedure Body Parameters Result → Prop) :
    List (Act Body) → Procedure Body Parameters Result → Prop
  | acts, .done result => Holds acts (.done result)
  | acts, .report event next =>
      Holds acts (.report event next) ∧ Always Holds (acts ++ [.reported event]) next
  | acts, .classInfo type next =>
      Holds acts (.classInfo type next) ∧
        Always Holds (acts ++ [.found (ClassInfo.build type)]) (next (ClassInfo.build type))
  | acts, .acquire next => Holds acts (.acquire next) ∧ Always Holds (acts ++ [.acquired]) next
  | acts, .release next => Holds acts (.release next) ∧ Always Holds (acts ++ [.released]) next
  | acts, .invoke method target inputs next =>
      Holds acts (.invoke method target inputs next) ∧
        ∀ outcome, Always Holds (acts ++ [.invoked method outcome]) (next outcome)
  | acts, .snapshot parameters next =>
      Holds acts (.snapshot parameters next) ∧
        ∀ values, Always Holds (acts ++ [.read values]) (next values)
  | acts, .create action parameters next =>
      Holds acts (.create action parameters next) ∧
        ∀ outcome, Always Holds (acts ++ [.created outcome]) (next outcome)
  | acts, .perform action parameters next =>
      Holds acts (.perform action parameters next) ∧
        ∀ outcome, Always Holds (acts ++ [.performed outcome]) (next outcome)
  | acts, .record task action next =>
      Holds acts (.record task action next) ∧
        Always Holds (acts ++ [.recorded ⟨task, action⟩]) next

variable
  {Holds : List (Act Body) → Procedure Body Parameters Result → Prop}
  {acts : List (Act Body)}
  {procedure rest : Procedure Body Parameters Result}

theorem Always.holds (always : Always Holds acts procedure) : Holds acts procedure := by
  cases procedure with
  | done result => exact always
  | _ => exact always.1

theorem Always.step
    {act : Act Body}
    (always : Always Holds acts procedure)
    (takes : Takes procedure act rest) :
    Always Holds (acts ++ [act]) rest := by
  cases takes with
  | report => exact always.2
  | classInfo => exact always.2
  | acquire => exact always.2
  | release => exact always.2
  | invoke outcome => exact always.2 outcome
  | snapshot values => exact always.2 values
  | create outcome => exact always.2 outcome
  | perform outcome => exact always.2 outcome
  | record => exact always.2

/-- A procedure that is not done can go on. -/
theorem exists_takes_or_done (procedure : Procedure Body Parameters Result) :
    (∃ result, procedure = .done result) ∨ ∃ act rest, Takes procedure act rest := by
  cases procedure with
  | done result => exact .inl ⟨result, rfl⟩
  | report event next => exact .inr ⟨_, _, .report⟩
  | classInfo type next => exact .inr ⟨_, _, .classInfo⟩
  | acquire next => exact .inr ⟨_, _, .acquire⟩
  | release next => exact .inr ⟨_, _, .release⟩
  | invoke method target inputs next => exact .inr ⟨_, _, .invoke .succeeded⟩
  | snapshot parameters next => exact .inr ⟨_, _, .snapshot .null⟩
  | create action parameters next => exact .inr ⟨_, _, .create .succeeded⟩
  | perform action parameters next => exact .inr ⟨_, _, .perform .succeeded⟩
  | record task action next => exact .inr ⟨_, _, .record⟩

end Procedure

/-! ## What an isolated action has done -/

/-- What an isolated action is run on: the parameters of the task, the values read from them, and
what the action made of the values. -/
structure Preparation (configured : ConfiguredTask Body Parameters) where
  parameters : IsolatedParameters Parameters
  read : Json
  values : Parameters
  carried : configured.parameters = some parameters
  materialized : parameters.action.materialize read = .decoded values

namespace Preparation

variable {configured : ConfiguredTask Body Parameters}

/-- The acts up to the moment at which the lock is given up. -/
def acts (preparation : Preparation configured) : List (Act Body) :=
  [ .read preparation.read,
    .reported (ActionFactory.running configured.path preparation.parameters.action.name),
    .released ]

theorem parameters_ne_none (preparation : Preparation configured) :
    configured.parameters ≠ none := by
  rw [preparation.carried]
  exact nofun

end Preparation

section Requests

variable (configured : ConfiguredTask Body Parameters) (typeName : String)

/-- The ends of an isolated action, each with all acts that led there. -/
inductive IsolatedEnds : List (Act Body) → ActionResult → Prop where
  | withoutParameters (missing : configured.parameters = none) :
      IsolatedEnds [] (.failed (.notIsolatable configured.path))
  | notMaterialized
      {parameters : IsolatedParameters Parameters}
      {read : Json}
      {cause : Cause}
      (carried : configured.parameters = some parameters)
      (refused : parameters.action.materialize read = .refused cause) :
      IsolatedEnds [.read read] (.failed (.isolation configured.path cause))
  | panickedInDecoding
      {parameters : IsolatedParameters Parameters}
      {read : Json}
      (carried : configured.parameters = some parameters)
      (panics : parameters.action.materialize read = .panicked) :
      IsolatedEnds [.read read] .panicked
  | notCreated (preparation : Preparation configured) (cause : Cause) :
      IsolatedEnds (preparation.acts ++ [.created (.failed cause), .acquired])
        (.failed
          (.instantiation configured.path preparation.parameters.action.name cause))
  | panickedInCreate (preparation : Preparation configured) :
      IsolatedEnds (preparation.acts ++ [.created .panicked, .acquired]) .panicked
  | bodyFailed (preparation : Preparation configured) (cause : Cause) :
      IsolatedEnds
        (preparation.acts ++ [.created .succeeded, .performed (.failed cause), .acquired])
        (.failed (.actionFailed configured.path (typeName ++ " (isolated)") cause))
  | panickedInBody (preparation : Preparation configured) :
      IsolatedEnds (preparation.acts ++ [.created .succeeded, .performed .panicked, .acquired])
        .panicked
  | succeeded (preparation : Preparation configured) :
      IsolatedEnds (preparation.acts ++ [.created .succeeded, .performed .succeeded, .acquired])
        .succeeded

/-- What an isolated action has done whenever it asks for something, and when it is done. -/
def AtRequest (acts : List (Act Body)) : Procedure Body Parameters ActionResult → Prop
  | .done result => IsolatedEnds configured typeName acts result
  | .snapshot parameters _ => configured.parameters = some parameters ∧ acts = []
  | .report _ _ =>
      ∃ preparation : Preparation configured, acts = preparation.acts.take 1
  | .release _ =>
      ∃ preparation : Preparation configured, acts = preparation.acts.take 2
  | .create action values _ =>
      ∃ preparation : Preparation configured,
        action = preparation.parameters.action ∧
          values = preparation.values ∧
          acts = preparation.acts
  | .perform action values _ =>
      ∃ preparation : Preparation configured,
        action = preparation.parameters.action ∧
          values = preparation.values ∧
          acts = preparation.acts ++ [.created .succeeded]
  | .acquire _ =>
      ∃ (preparation : Preparation configured) (outcome : Outcome),
        acts = preparation.acts ++ [.created outcome] ∨
          acts = preparation.acts ++ [.created .succeeded, .performed outcome]
  | .classInfo _ _ => False
  | .invoke _ _ _ _ => False
  | .record _ _ _ => False

theorem always_attempt_isolated (inputs : Option IncrementalInputs) :
    Procedure.Always (AtRequest configured typeName) []
      (ActionFactory.attempt configured inputs (.isolated typeName) .done) := by
  rw [ActionFactory.attempt]
  cases carried : configured.parameters with
  | none => exact .withoutParameters carried
  | some parameters =>
      refine ⟨⟨carried, rfl⟩, ?_⟩
      intro read
      beta_reduce
      cases materialized : parameters.action.materialize read with
      | refused cause => exact IsolatedEnds.notMaterialized carried materialized
      | panicked => exact IsolatedEnds.panickedInDecoding carried materialized
      | decoded values =>
          let preparation : Preparation configured :=
            ⟨parameters, read, values, carried, materialized⟩
          refine ⟨⟨preparation, rfl⟩, ⟨preparation, rfl⟩, ⟨preparation, rfl, rfl, rfl⟩, ?_⟩
          intro created
          cases created with
          | failed cause =>
              exact ⟨⟨preparation, _, .inl rfl⟩, .notCreated preparation cause⟩
          | panicked => exact ⟨⟨preparation, _, .inl rfl⟩, .panickedInCreate preparation⟩
          | succeeded =>
              refine ⟨⟨preparation, rfl, rfl, rfl⟩, ?_⟩
              intro outcome
              refine ⟨⟨preparation, outcome, .inr rfl⟩, ?_⟩
              cases outcome with
              | failed cause => exact .bodyFailed preparation cause
              | panicked => exact .panickedInBody preparation
              | succeeded => exact .succeeded preparation

end Requests

/-! ## What the end of an isolated action tells -/

/-- True if values have been read that come to this when the action of the task decodes them. -/
def Decodes
    (configured : ConfiguredTask Body Parameters)
    (acts : List (Act Body))
    (decoding : Decoding Parameters) :
    Prop :=
  ∃ parameters read,
    configured.parameters = some parameters ∧
      .read read ∈ acts ∧
      parameters.action.materialize read = decoding

theorem not_decodes_nil
    {configured : ConfiguredTask Body Parameters}
    (decoding : Decoding Parameters) :
    ¬Decodes configured [] decoding := by
  rintro ⟨parameters, read, -, none, -⟩
  cases none

/-- What has been read once is decoded in one way. -/
theorem decodes_read_iff
    {configured : ConfiguredTask Body Parameters}
    {parameters : IsolatedParameters Parameters}
    (carried : configured.parameters = some parameters)
    (read : Json)
    (decoding : Decoding Parameters) :
    Decodes configured [.read read] decoding ↔ parameters.action.materialize read = decoding := by
  constructor
  · rintro ⟨parameters', read', carried', member, decodes⟩
    cases carried.symm.trans carried'
    cases List.mem_singleton.1 member
    exact decodes
  · intro decodes
    exact ⟨parameters, read, carried, List.mem_singleton_self _, decodes⟩

/-- What an action is run on was decoded, and nothing else is read after it. -/
theorem Preparation.decodes_iff
    {configured : ConfiguredTask Body Parameters}
    (preparation : Preparation configured)
    {later : List (Act Body)}
    (unread : ∀ read, .read read ∉ later)
    (decoding : Decoding Parameters) :
    Decodes configured (preparation.acts ++ later) decoding ↔
      .decoded preparation.values = decoding := by
  have reads (read : Json) : .read read ∈ preparation.acts ++ later ↔ read = preparation.read := by
    simp [acts, unread]
  constructor
  · rintro ⟨parameters, read, carried, member, decodes⟩
    cases preparation.carried.symm.trans carried
    rw [(reads read).1 member, preparation.materialized] at decodes
    exact decodes
  · rintro rfl
    exact
      ⟨preparation.parameters, preparation.read, preparation.carried, (reads _).2 rfl,
        preparation.materialized⟩

/-- What the end of an isolated action has to do with its acts. -/
structure EndsAs
    (configured : ConfiguredTask Body Parameters)
    (typeName : String)
    (acts : List (Act Body))
    (result : ActionResult) :
    Prop where
  notIsolatable_iff :
    result = .failed (.notIsolatable configured.path) ↔ configured.parameters = none
  isolation_iff :
    ∀ source,
      result = .failed (.isolation configured.path source) ↔
        Decodes configured acts (.refused source)
  instantiation_iff :
    ∀ source,
      (∃ parameters,
          configured.parameters = some parameters ∧
            result = .failed (.instantiation configured.path parameters.action.name source)) ↔
        .created (.failed source) ∈ acts
  actionFailed_iff :
    ∀ source,
      result = .failed (.actionFailed configured.path (typeName ++ " (isolated)") source) ↔
        .performed (.failed source) ∈ acts
  /-- A panic is one of the action, while it decodes the values, is created or is run. -/
  panicked_iff :
    result = .panicked ↔
      Decodes configured acts .panicked ∨ .created .panicked ∈ acts ∨ .performed .panicked ∈ acts
  succeeded_iff : result = .succeeded ↔ .performed .succeeded ∈ acts
  /-- There is no other end. -/
  covered :
    configured.parameters = none ∨
      (∃ source, Decodes configured acts (.refused source)) ∨
      Decodes configured acts .panicked ∨
      ∃ outcome,
        .created outcome ∈ acts ∧ outcome ≠ .succeeded ∨
          .created .succeeded ∈ acts ∧ .performed outcome ∈ acts

namespace IsolatedEnds

variable
  {configured : ConfiguredTask Body Parameters}
  {typeName : String}
  {acts : List (Act Body)}
  {result : ActionResult}

theorem notIsolatable_iff (ends : IsolatedEnds configured typeName acts result) :
    result = .failed (.notIsolatable configured.path) ↔ configured.parameters = none := by
  cases ends with
  | withoutParameters missing => exact iff_of_true rfl missing
  | notMaterialized carried refused =>
      rw [carried]
      exact iff_of_false nofun nofun
  | panickedInDecoding carried panics =>
      rw [carried]
      exact iff_of_false nofun nofun
  | notCreated preparation cause => exact iff_of_false nofun preparation.parameters_ne_none
  | panickedInCreate preparation => exact iff_of_false nofun preparation.parameters_ne_none
  | bodyFailed preparation cause => exact iff_of_false nofun preparation.parameters_ne_none
  | panickedInBody preparation => exact iff_of_false nofun preparation.parameters_ne_none
  | succeeded preparation => exact iff_of_false nofun preparation.parameters_ne_none

theorem isolation_iff
    (ends : IsolatedEnds configured typeName acts result)
    (source : Cause) :
    result = .failed (.isolation configured.path source) ↔
      Decodes configured acts (.refused source) := by
  have decoded {preparation : Preparation configured} {later : List (Act Body)}
      (unread : ∀ read, .read read ∉ later) :
      ¬Decodes configured (preparation.acts ++ later) (.refused source) := by
    rw [preparation.decodes_iff unread]
    exact nofun
  cases ends with
  | withoutParameters missing => exact iff_of_false nofun (not_decodes_nil _)
  | notMaterialized carried refused =>
      rw [decodes_read_iff carried, refused]
      simp
  | panickedInDecoding carried panics =>
      rw [decodes_read_iff carried, panics]
      exact iff_of_false nofun nofun
  | notCreated => exact iff_of_false nofun (decoded (by simp))
  | panickedInCreate => exact iff_of_false nofun (decoded (by simp))
  | bodyFailed => exact iff_of_false nofun (decoded (by simp))
  | panickedInBody => exact iff_of_false nofun (decoded (by simp))
  | succeeded => exact iff_of_false nofun (decoded (by simp))

theorem instantiation_iff
    (ends : IsolatedEnds configured typeName acts result)
    (source : Cause) :
    (∃ parameters,
        configured.parameters = some parameters ∧
          result = .failed (.instantiation configured.path parameters.action.name source)) ↔
      .created (.failed source) ∈ acts := by
  cases ends with
  | notCreated preparation cause =>
      constructor
      · rintro ⟨parameters, carried, same⟩
        cases preparation.carried.symm.trans carried
        cases same
        simp
      · intro member
        have same : source = cause := by simpa [Preparation.acts] using member
        exact ⟨preparation.parameters, preparation.carried, by rw [same]⟩
  | _ => simp [Preparation.acts]

theorem actionFailed_iff
    (ends : IsolatedEnds configured typeName acts result)
    (source : Cause) :
    result =
        .failed (.actionFailed configured.path (typeName ++ " (isolated)") source) ↔
      .performed (.failed source) ∈ acts := by
  cases ends with
  | bodyFailed preparation cause => simp [Preparation.acts, eq_comm]
  | _ => simp [Preparation.acts]

theorem panicked_iff (ends : IsolatedEnds configured typeName acts result) :
    result = .panicked ↔
      Decodes configured acts .panicked ∨
        .created .panicked ∈ acts ∨ .performed .panicked ∈ acts := by
  cases ends with
  | withoutParameters missing => simp [not_decodes_nil]
  | notMaterialized carried refused => simp [decodes_read_iff carried, refused]
  | panickedInDecoding carried panics => simp [decodes_read_iff carried, panics]
  | _ =>
      rw [Preparation.decodes_iff _ (by simp)]
      simp [Preparation.acts]

theorem succeeded_iff (ends : IsolatedEnds configured typeName acts result) :
    result = .succeeded ↔ .performed .succeeded ∈ acts := by
  cases ends with
  | _ => simp [Preparation.acts]

theorem covered (ends : IsolatedEnds configured typeName acts result) :
    configured.parameters = none ∨
      (∃ source, Decodes configured acts (.refused source)) ∨
      Decodes configured acts .panicked ∨
      ∃ outcome,
        .created outcome ∈ acts ∧ outcome ≠ .succeeded ∨
          .created .succeeded ∈ acts ∧ .performed outcome ∈ acts := by
  cases ends with
  | withoutParameters missing => exact .inl missing
  | @notMaterialized parameters read cause carried refused =>
      exact .inr (.inl ⟨cause, (decodes_read_iff carried read _).2 refused⟩)
  | @panickedInDecoding parameters read carried panics =>
      exact .inr (.inr (.inl ((decodes_read_iff carried read _).2 panics)))
  | notCreated preparation cause =>
      exact .inr (.inr (.inr ⟨.failed cause, .inl ⟨by simp, nofun⟩⟩))
  | panickedInCreate preparation =>
      exact .inr (.inr (.inr ⟨.panicked, .inl ⟨by simp, nofun⟩⟩))
  | bodyFailed preparation cause =>
      exact .inr (.inr (.inr ⟨.failed cause, .inr ⟨by simp, by simp⟩⟩))
  | panickedInBody preparation =>
      exact .inr (.inr (.inr ⟨.panicked, .inr ⟨by simp, by simp⟩⟩))
  | succeeded preparation =>
      exact .inr (.inr (.inr ⟨.succeeded, .inr ⟨by simp, by simp⟩⟩))

theorem endsAs (ends : IsolatedEnds configured typeName acts result) :
    EndsAs configured typeName acts result where
  notIsolatable_iff := ends.notIsolatable_iff
  isolation_iff := ends.isolation_iff
  instantiation_iff := ends.instantiation_iff
  actionFailed_iff := ends.actionFailed_iff
  panicked_iff := ends.panicked_iff
  succeeded_iff := ends.succeeded_iff
  covered := ends.covered

end IsolatedEnds

/-! ## Others that use the lock -/

/-- Who holds the project lock while an isolated action is run. -/
inductive Holder (User : Type) where
  | nobody
  /-- The worker that runs the isolated action. -/
  | worker
  | other (user : User)
deriving DecidableEq

/-- The holder after an act of the worker. -/
def Holder.after (holder : Holder User) : Act Body → Holder User
  | .acquired => .worker
  | .released => .nobody
  | _ => holder

/-- Where the run of an isolated action stands among others that use the lock. -/
structure Handover (Body Parameters User : Type) where
  /-- What the worker still does. -/
  rest : Procedure Body Parameters ActionResult
  holder : Holder User
  /-- What the worker has done. -/
  acts : List (Act Body)

namespace Handover

/-- The run before anything is done, with the lock held. -/
def start
    (configured : ConfiguredTask Body Parameters)
    (inputs : Option IncrementalInputs)
    (typeName : String) :
    Handover Body Parameters User :=
  ⟨ActionFactory.attempt configured inputs (.isolated typeName) .done, .worker, []⟩

/-- True of what a run can come to.  The live parameters may be read as anything and user code may
end as it likes; the lock is given only to one that finds it free. -/
inductive Reachable
    (configured : ConfiguredTask Body Parameters)
    (inputs : Option IncrementalInputs)
    (typeName : String) :
    Handover Body Parameters User → Prop where
  | start : Reachable configured inputs typeName (start configured inputs typeName)
  | step
      {state : Handover Body Parameters User}
      {act : Act Body}
      {rest : Procedure Body Parameters ActionResult}
      (reached : Reachable configured inputs typeName state)
      (takes : state.rest.Takes act rest)
      (admitted : act = .acquired → state.holder = .nobody) :
      Reachable configured inputs typeName
        ⟨rest, state.holder.after act, state.acts ++ [act]⟩
  | take
      {state : Handover Body Parameters User}
      (reached : Reachable configured inputs typeName state)
      (free : state.holder = .nobody)
      (user : User) :
      Reachable configured inputs typeName { state with holder := .other user }
  | give
      {state : Handover Body Parameters User}
      {user : User}
      (reached : Reachable configured inputs typeName state)
      (held : state.holder = .other user) :
      Reachable configured inputs typeName { state with holder := .nobody }

/-- True if acts that began with the lock held end with the lock held. -/
def heldAfter (acts : List (Act Body)) : Bool :=
  acts.foldl
    (fun held act =>
      match act with
      | .acquired => true
      | .released => false
      | _ => held)
    true

theorem heldAfter_concat (acts : List (Act Body)) (act : Act Body) :
    heldAfter (acts ++ [act]) =
      match act with
      | .acquired => true
      | .released => false
      | _ => heldAfter acts :=
  List.foldl_concat ..

section

variable
  {configured : ConfiguredTask Body Parameters}
  {inputs : Option IncrementalInputs}
  {typeName : String}
  {state : Handover Body Parameters User}

theorem Reachable.atRequest (reached : Reachable configured inputs typeName state) :
    Procedure.Always (AtRequest configured typeName) state.acts state.rest := by
  induction reached with
  | start => exact always_attempt_isolated configured typeName inputs
  | step reached takes admitted ih => exact ih.step takes
  | take reached free user ih => exact ih
  | give reached held ih => exact ih

/-- Whether the worker holds the lock can be told from its acts. -/
theorem Reachable.worker_iff (reached : Reachable configured inputs typeName state) :
    state.holder = .worker ↔ heldAfter state.acts = true := by
  induction reached with
  | start => exact Iff.intro (fun _ => rfl) fun _ => rfl
  | @step state act rest reached takes admitted ih =>
      rw [heldAfter_concat]
      cases act with
      | acquired => exact Iff.intro (fun _ => rfl) fun _ => rfl
      | released => exact Iff.intro nofun nofun
      | _ => exact ih
  | take reached free user ih =>
      rw [free] at ih
      exact Iff.intro nofun fun held => nomatch ih.2 held
  | give reached held ih =>
      rw [held] at ih
      exact Iff.intro nofun fun held => nomatch ih.2 held

end

/-! ## Who holds the lock when something is asked -/

section

variable
  {configured : ConfiguredTask Body Parameters}
  {typeName : String}
  {acts : List (Act Body)}
  {result : ActionResult}
  {procedure : Procedure Body Parameters ActionResult}

theorem heldAfter_of_ends (ends : IsolatedEnds configured typeName acts result) :
    heldAfter acts = true := by
  cases ends <;> rfl

/-- The lock is given up only once there is something to run the action on. -/
theorem exists_preparation_of_not_held
    (asked : AtRequest configured typeName acts procedure)
    (free : heldAfter acts = false) :
    ∃ preparation : Preparation configured, preparation.acts <+: acts := by
  cases procedure with
  | done result =>
      rw [heldAfter_of_ends asked] at free
      cases free
  | report event next =>
      rcases asked with ⟨preparation, rfl⟩
      cases free
  | release next =>
      rcases asked with ⟨preparation, rfl⟩
      cases free
  | snapshot parameters next =>
      rcases asked with ⟨-, rfl⟩
      cases free
  | create action values next =>
      rcases asked with ⟨preparation, -, -, rfl⟩
      exact ⟨preparation, List.prefix_rfl⟩
  | perform action values next =>
      rcases asked with ⟨preparation, -, -, rfl⟩
      exact ⟨preparation, List.prefix_append _ _⟩
  | acquire next =>
      rcases asked with ⟨preparation, outcome, rfl | rfl⟩
      · exact ⟨preparation, List.prefix_append _ _⟩
      · exact ⟨preparation, List.prefix_append _ _⟩
  | classInfo type next => exact asked.elim
  | invoke method target inputs next => exact asked.elim
  | record task action next => exact asked.elim

/-- The lock is asked for only after it was given up. -/
theorem not_held_of_acquire
    {next : Procedure Body Parameters ActionResult}
    (asked : AtRequest configured typeName acts (.acquire next)) :
    heldAfter acts = false := by
  rcases asked with ⟨preparation, outcome, rfl | rfl⟩
  · rfl
  · rfl

theorem length_le_of_atRequest (asked : AtRequest configured typeName acts procedure) :
    acts.length ≤ 6 := by
  cases procedure with
  | done result => cases asked <;> simp [Preparation.acts]
  | report event next =>
      rcases asked with ⟨preparation, rfl⟩
      simp [Preparation.acts]
  | release next =>
      rcases asked with ⟨preparation, rfl⟩
      simp [Preparation.acts]
  | snapshot parameters next =>
      rcases asked with ⟨-, rfl⟩
      simp
  | create action values next =>
      rcases asked with ⟨preparation, -, -, rfl⟩
      simp [Preparation.acts]
  | perform action values next =>
      rcases asked with ⟨preparation, -, -, rfl⟩
      simp [Preparation.acts]
  | acquire next =>
      rcases asked with ⟨preparation, outcome, rfl | rfl⟩
      · simp [Preparation.acts]
      · simp [Preparation.acts]
  | classInfo type next => exact asked.elim
  | invoke method target inputs next => exact asked.elim
  | record task action next => exact asked.elim

end

/-! ## The discipline -/

/-- What holds at every moment of the run of an isolated action. -/
structure Disciplined
    (configured : ConfiguredTask Body Parameters)
    (typeName : String)
    (state : Handover Body Parameters User) :
    Prop where
  /-- The parameters are read first of all, while the worker holds the lock. -/
  snapshot :
    ∀ parameters next,
      state.rest = .snapshot parameters next →
        state.holder = .worker ∧ configured.parameters = some parameters ∧ state.acts = []
  /-- The lock is not given up before the values that were read have been materialized. -/
  materialized :
    state.holder ≠ .worker →
      ∃ preparation : Preparation configured, preparation.acts <+: state.acts
  /-- The action is created once, without the lock, from what was materialized. -/
  create :
    ∀ action values next,
      state.rest = .create action values next →
        state.holder ≠ .worker ∧
          ∃ preparation : Preparation configured,
            action = preparation.parameters.action ∧
              values = preparation.values ∧
              state.acts = preparation.acts
  /-- It is run once, without the lock, on the same values, after it was created. -/
  perform :
    ∀ action values next,
      state.rest = .perform action values next →
        state.holder ≠ .worker ∧
          ∃ preparation : Preparation configured,
            action = preparation.parameters.action ∧
              values = preparation.values ∧
              state.acts = preparation.acts ++ [.created .succeeded]
  /-- The worker ends with the lock held. -/
  done :
    ∀ result,
      state.rest = .done result →
        state.holder = .worker ∧ EndsAs configured typeName state.acts result
  /-- It is done after at most six steps, and waits for nothing but the lock. -/
  progress :
    state.acts.length ≤ 6 ∧
      ((∃ result, state.rest = .done result) ∨
        (∃ act rest, state.rest.Takes act rest ∧ (act = .acquired → state.holder = .nobody)) ∨
        ∃ next user, state.rest = .acquire next ∧ state.holder = .other user)

/-- An isolated action keeps to the lock, and its end is told by what it did, among any others that
use the lock. -/
theorem Reachable.disciplined
    {configured : ConfiguredTask Body Parameters}
    {inputs : Option IncrementalInputs}
    {typeName : String}
    {state : Handover Body Parameters User}
    (reached : Reachable configured inputs typeName state) :
    Disciplined configured typeName state := by
  have asked : AtRequest configured typeName state.acts state.rest := reached.atRequest.holds
  have free : state.holder ≠ .worker ↔ heldAfter state.acts = false := by
    rw [ne_eq, reached.worker_iff, Bool.not_eq_true]
  constructor
  case snapshot =>
    intro parameters next rest
    rw [rest] at asked
    rcases asked with ⟨carried, none⟩
    refine ⟨reached.worker_iff.2 ?_, carried, none⟩
    rw [none]
    rfl
  case materialized =>
    intro notHeld
    exact exists_preparation_of_not_held asked (free.1 notHeld)
  case create =>
    intro action values next rest
    rw [rest] at asked
    rcases asked with ⟨preparation, same, sameValues, acts⟩
    refine ⟨free.2 ?_, preparation, same, sameValues, acts⟩
    rw [acts]
    rfl
  case perform =>
    intro action values next rest
    rw [rest] at asked
    rcases asked with ⟨preparation, same, sameValues, acts⟩
    refine ⟨free.2 ?_, preparation, same, sameValues, acts⟩
    rw [acts]
    rfl
  case done =>
    intro result rest
    rw [rest] at asked
    exact ⟨reached.worker_iff.2 (heldAfter_of_ends asked), asked.endsAs⟩
  case progress =>
    refine ⟨length_le_of_atRequest asked, ?_⟩
    rcases state.rest.exists_takes_or_done with done | ⟨act, rest, takes⟩
    · exact .inl done
    · by_cases blocked : act = .acquired ∧ state.holder ≠ .nobody
      · rcases blocked with ⟨rfl, busy⟩
        generalize resting : state.rest = procedure at asked takes
        cases takes with
        | acquire =>
            have notHeld := free.2 (not_held_of_acquire asked)
            cases holder : state.holder with
            | nobody => exact absurd holder busy
            | worker => exact absurd holder notHeld
            | other user => exact .inr (.inr ⟨_, user, rfl, rfl⟩)
      · refine .inr (.inl ⟨act, rest, takes, ?_⟩)
        intro acquires
        by_contra busy
        exact blocked ⟨acquires, busy⟩

/-! ## A failure while another holds the lock -/

namespace Stamping

/-- An action that makes the same of all values. -/
def stamp : IsolatedAction Nat := ⟨"Stamp", fun _ => .decoded 7⟩

/-- A task with that action. -/
def stamping : ConfiguredTask Unit Nat :=
  { task := ⟨⟨10⟩, ":stamp"⟩
    type := ⟨⟨⟨1⟩, "Sheet", false, true, []⟩, []⟩
    parameters := some ⟨0, stamp⟩ }

/-- Why the stamp fails. -/
def inkDry : Cause := ⟨"ink dry", []⟩

/-- Another user takes the lock while the action is created, and holds it when the action fails. -/
theorem fails_without_lock :
    ∃ during final : Handover Unit Nat Unit,
      Reachable stamping none "Sheet" during ∧
        Reachable stamping none "Sheet" final ∧
        during.holder = .other () ∧
        (∃ preparation : Preparation stamping,
          preparation.values = 7 ∧ during.acts = preparation.acts ++ [.created .succeeded]) ∧
        final.rest =
          .done (.failed (.actionFailed ":stamp" "Sheet (isolated)" inkDry)) ∧
        final.holder = .worker ∧
        .performed (.failed inkDry) ∈ final.acts := by
  have began :
      Reachable stamping none "Sheet" (start stamping none "Sheet" : Handover Unit Nat Unit) :=
    .start
  have read := began.step (.snapshot .null) (fun same => nomatch same)
  have reported := read.step .report (fun same => nomatch same)
  have released := reported.step .release (fun same => nomatch same)
  have taken := released.take rfl ()
  have created := taken.step (.create .succeeded) (fun same => nomatch same)
  have failed := created.step (.perform (.failed inkDry)) (fun same => nomatch same)
  have given := failed.give rfl
  have final := given.step .acquire fun _ => rfl
  rcases created.disciplined.perform _ _ _ rfl with ⟨-, preparation, -, values, acts⟩
  rcases final.disciplined.done _ rfl with ⟨holder, ends⟩
  refine ⟨_, _, created, final, rfl, ⟨preparation, values.symm, acts⟩, rfl, holder, ?_⟩
  exact (ends.actionFailed_iff inkDry).1 rfl

end Stamping

end Handover

end TaskDispatch
