import TaskDispatch.Proofs.Action.EffectiveMethods
import TaskDispatch.Proofs.Action.FactoryOrder
import TaskDispatch.Proofs.Execution.Course

/-!
# The inputs that bodies are given

An execution is handed incremental inputs or none, and its settings say whether missing ones are
taken for a rebuild.  Of the declared bodies that it runs at most one is given inputs.

`Procedure.deeds` lists what an execution does that others can notice: the declared bodies it runs,
each with the inputs it is given, and the actions it records.  The surroundings are any host
whatever, so that user code may do anything in them, and two executions with the same course leave
the same state behind.  All that is asked of the host is that it looks the type of the task up.

The main statement is `Executer.delivers_inputs`.
-/

namespace TaskDispatch

variable {Body Parameters Result State : Type}

/-! ## What an execution does -/

/-- A declared method that is run on a task, with the inputs that its body is given. -/
structure Invocation (Body Parameters : Type) where
  method : ActionMethod Body
  target : ConfiguredTask Body Parameters
  inputs : Option IncrementalInputs

/-- What an execution does that others can notice. -/
inductive Deed (Body Parameters : Type) where
  | invoked (invocation : Invocation Body Parameters)
  | recorded (entry : CompletedAction)

def Deed.invocation? : Deed Body Parameters → Option (Invocation Body Parameters)
  | .invoked invocation => some invocation
  | .recorded _ => none

namespace Procedure

/-- What a procedure does while a host answers its requests in order. -/
def deeds
    (host : Host Body Parameters State) :
    Procedure Body Parameters Result → State → List (Deed Body Parameters)
  | .done _, _ => []
  | .report event next, state => deeds host next (host.report event state)
  | .classInfo type next, state =>
      let answer := host.classInfo type state
      deeds host (next answer.1) answer.2
  | .acquire next, state => deeds host next (host.acquire state)
  | .release next, state => deeds host next (host.release state)
  | .invoke method target inputs next, state =>
      let answer := host.invoke method target inputs state
      .invoked ⟨method, target, inputs⟩ :: deeds host (next answer.1) answer.2
  | .snapshot parameters next, state => deeds host (next (host.snapshot parameters state)) state
  | .create action parameters next, state =>
      let answer := host.create action parameters state
      deeds host (next answer.1) answer.2
  | .perform action parameters next, state =>
      let answer := host.perform action parameters state
      deeds host (next answer.1) answer.2
  | .record task action next, state =>
      .recorded ⟨task, action⟩ :: deeds host next (host.record task action state)

def invocations
    (host : Host Body Parameters State)
    (procedure : Procedure Body Parameters Result)
    (state : State) :
    List (Invocation Body Parameters) :=
  (procedure.deeds host state).filterMap Deed.invocation?

/-- Two procedures that do the same, with the same result, and leave the same state. -/
structure SameCourse
    (host : Host Body Parameters State)
    (state : State)
    (procedure other : Procedure Body Parameters Result) :
    Prop where
  run : procedure.run host state = other.run host state
  deeds : procedure.deeds host state = other.deeds host state

end Procedure

/-! ## Actions that take no inputs -/

namespace ActionFactory

theorem attempt_of_not_incremental
    {factory : ActionFactory Body}
    (takesNone : factory.isIncremental = false)
    (configured : ConfiguredTask Body Parameters)
    (inputs inputs' : Option IncrementalInputs)
    (next : ActionResult → Procedure Body Parameters Result) :
    factory.attempt configured inputs next = factory.attempt configured inputs' next := by
  cases factory with
  | standard typeName method => rfl
  | incremental typeName method => cases takesNone
  | isolated typeName => rfl

end ActionFactory

/-- Actions of which none takes inputs run the same whatever the inputs are. -/
theorem Executer.runActions_of_not_incremental
    {factories : List (ActionFactory Body)}
    (takeNone : ∀ factory ∈ factories, factory.isIncremental = false)
    (configured : ConfiguredTask Body Parameters)
    (inputs inputs' : Option IncrementalInputs)
    (incremental : Bool)
    (done : List String) :
    runActions configured inputs incremental done factories =
      runActions configured inputs' incremental done factories := by
  induction factories generalizing done with
  | nil => rfl
  | cons factory factories ih =>
      rw [List.forall_mem_cons] at takeNone
      rw [runActions, runActions,
        ActionFactory.attempt_of_not_incremental takeNone.1 configured inputs inputs']
      simp only [ih takeNone.2]

/-! ## The body that takes inputs -/

/-- The inputs that the body of a method is given, if it is run. -/
def ActionMethod.given
    (method : ActionMethod Body)
    (changes : IncrementalInputs) :
    Option IncrementalInputs :=
  if method.takesInputs then some changes else none

namespace ActionFactory

/-- How an action runs its method, if it has one and is not refused for want of inputs. -/
def invocation?
    (configured : ConfiguredTask Body Parameters)
    (inputs : Option IncrementalInputs) :
    ActionFactory Body → Option (Invocation Body Parameters)
  | .standard _ method => some ⟨method, configured, none⟩
  | .incremental _ method => inputs.map fun changes => ⟨method, configured, some changes⟩
  | .isolated _ => none

theorem invocation?_ofDeclared
    (configured : ConfiguredTask Body Parameters)
    (changes : IncrementalInputs)
    (declaration : DeclaredMethod Body) :
    (ofDeclared declaration).invocation? configured (some changes) =
      some ⟨declaration.2, configured, declaration.2.given changes⟩ := by
  unfold ofDeclared ActionMethod.given
  split <;> rfl

theorem invocation?_of_not_incremental
    {factory : ActionFactory Body}
    (takesNone : factory.isIncremental = false)
    (configured : ConfiguredTask Body Parameters)
    (inputs inputs' : Option IncrementalInputs) :
    factory.invocation? configured inputs = factory.invocation? configured inputs' := by
  cases factory with
  | standard typeName method => rfl
  | incremental typeName method => cases takesNone
  | isolated typeName => rfl

/-- What comes of running one action: its result, and the state in which whatever follows it goes
on.  It runs its method and no other declared body. -/
structure ComesTo
    (host : Host Body Parameters State)
    (configured : ConfiguredTask Body Parameters)
    (inputs : Option IncrementalInputs)
    (factory : ActionFactory Body)
    (before : State)
    (result : ActionResult)
    (after : State) :
    Prop where
  refused :
    inputs = none →
      factory.isIncremental = true → result = .failed (.missingInputs configured.path)
  missing :
    ∀ task,
      result = .failed (.missingInputs task) →
        inputs = none ∧ factory.isIncremental = true ∧ task = configured.path
  run :
    ∀ {Result : Type} (next : ActionResult → Procedure Body Parameters Result),
      (factory.attempt configured inputs next).run host before = (next result).run host after
  deeds :
    ∀ {Result : Type} (next : ActionResult → Procedure Body Parameters Result),
      (factory.attempt configured inputs next).deeds host before =
        (factory.invocation? configured inputs).toList.map Deed.invoked ++
          (next result).deeds host after

theorem bodyResult_ne_missingInputs (task action other : String) (outcome : Outcome) :
    bodyResult task action outcome ≠ .failed (.missingInputs other) := by
  cases outcome <;> rintro ⟨⟩

/-- An isolated action runs no declared body, and does not fail for want of inputs. -/
theorem ComesTo.isolated
    {host : Host Body Parameters State}
    {configured : ConfiguredTask Body Parameters}
    {inputs : Option IncrementalInputs}
    {typeName : String}
    {before after : State}
    {result : ActionResult}
    (otherwise : ∀ task, result ≠ .failed (.missingInputs task))
    (leads :
      ∀ {Result : Type} (next : ActionResult → Procedure Body Parameters Result),
        let attempt := (ActionFactory.isolated typeName).attempt configured inputs next
        attempt.run host before = (next result).run host after ∧
          attempt.deeds host before = (next result).deeds host after) :
    ComesTo host configured inputs (.isolated typeName) before result after where
  refused _ takes := by cases takes
  missing task missing := absurd missing (otherwise task)
  run next := (leads next).1
  deeds next := (leads next).2

theorem exists_comesTo_isolated
    (host : Host Body Parameters State)
    (configured : ConfiguredTask Body Parameters)
    (inputs : Option IncrementalInputs)
    (typeName : String)
    (before : State) :
    ∃ result after, ComesTo host configured inputs (.isolated typeName) before result after := by
  cases carried : configured.parameters with
  | none =>
      refine ⟨.failed (.notIsolatable configured.path), before, .isolated ?_ ?_⟩
      · rintro _ ⟨⟩
      · intro Result next
        simp [attempt, carried]
  | some parameters =>
      cases materialized : parameters.action.materialize (host.snapshot parameters before) with
      | refused cause =>
          refine ⟨.failed (.isolation configured.path cause), before, .isolated ?_ ?_⟩
          · rintro _ ⟨⟩
          · intro Result next
            simp [attempt, carried, Procedure.run, Procedure.deeds, materialized]
      | panicked =>
          refine ⟨.panicked, before, .isolated ?_ ?_⟩
          · rintro _ ⟨⟩
          · intro Result next
            simp [attempt, carried, Procedure.run, Procedure.deeds, materialized]
      | decoded values =>
          let name := parameters.action.name
          let released := host.release (host.report (running configured.path name) before)
          cases created : host.create parameters.action values released with
          | mk outcome between =>
              cases outcome with
              | failed cause =>
                  refine
                    ⟨.failed (.instantiation configured.path name cause), host.acquire between,
                      .isolated ?_ ?_⟩
                  · rintro _ ⟨⟩
                  · intro Result next
                    simp [attempt, carried, Procedure.run, Procedure.deeds, materialized,
                      runUnlocked, created, released, name]
              | panicked =>
                  refine ⟨.panicked, host.acquire between, .isolated ?_ ?_⟩
                  · rintro _ ⟨⟩
                  · intro Result next
                    simp [attempt, carried, Procedure.run, Procedure.deeds, materialized,
                      runUnlocked, created, released, name]
              | succeeded =>
                  let action := (ActionFactory.isolated typeName : ActionFactory Body).displayName
                  let performed := host.perform parameters.action values between
                  refine
                    ⟨bodyResult configured.path action performed.1, host.acquire performed.2,
                      .isolated ?_ ?_⟩
                  · exact fun task => bodyResult_ne_missingInputs _ _ task _
                  · intro Result next
                    simp [attempt, carried, Procedure.run, Procedure.deeds, materialized,
                      runUnlocked, created, released, name, performed, action]

theorem exists_comesTo
    (host : Host Body Parameters State)
    (configured : ConfiguredTask Body Parameters)
    (inputs : Option IncrementalInputs)
    (factory : ActionFactory Body)
    (before : State) :
    ∃ result after, ComesTo host configured inputs factory before result after := by
  cases factory with
  | standard typeName method =>
      let answer := host.invoke method configured none before
      refine ⟨_, answer.2, ?_, ?_, fun _ => rfl, fun _ => rfl⟩
      · rintro - ⟨⟩
      · exact fun task missing => absurd missing (bodyResult_ne_missingInputs _ _ task answer.1)
  | incremental typeName method =>
      cases inputs with
      | none =>
          refine ⟨_, before, fun _ _ => rfl, ?_, fun _ => rfl, fun _ => rfl⟩
          rintro _ ⟨⟩
          exact ⟨rfl, rfl, rfl⟩
      | some changes =>
          let answer := host.invoke method configured (some changes) before
          refine ⟨_, answer.2, ?_, ?_, fun _ => rfl, fun _ => rfl⟩
          · rintro ⟨⟩
          · exact fun task missing => absurd missing (bodyResult_ne_missingInputs _ _ task answer.1)
  | isolated typeName => exact exists_comesTo_isolated host configured inputs typeName before

theorem ComesTo.invocations
    {host : Host Body Parameters State}
    {configured : ConfiguredTask Body Parameters}
    {inputs : Option IncrementalInputs}
    {factory : ActionFactory Body}
    {before after : State}
    {result : ActionResult}
    (comesTo : ComesTo host configured inputs factory before result after)
    (next : ActionResult → Procedure Body Parameters Result) :
    (factory.attempt configured inputs next).invocations host before =
      (factory.invocation? configured inputs).toList ++ (next result).invocations host after := by
  unfold Procedure.invocations
  rw [comesTo.deeds, List.filterMap_append, List.filterMap_map]
  congr 1
  exact List.filterMap_some

end ActionFactory

namespace Executer

section Actions

variable
  (host : Host Body Parameters State)
  (configured : ConfiguredTask Body Parameters)
  (inputs : Option IncrementalInputs)
  (incremental : Bool)

/-- The bodies that are run are those of the first actions, in order.  Without inputs these actions
stop short of one that takes them. -/
theorem exists_reached_runActions
    (factories : List (ActionFactory Body))
    (done : List String)
    (state : State) :
    ∃ reached,
      reached <+: factories ∧
        (inputs = none → ∀ factory ∈ reached, factory.isIncremental = false) ∧
        (runActions configured inputs incremental done factories).invocations host state =
          reached.filterMap (ActionFactory.invocation? configured inputs) := by
  induction factories generalizing done state with
  | nil => exact ⟨[], List.nil_prefix, fun _ _ member => (List.not_mem_nil member).elim, rfl⟩
  | cons factory factories ih =>
      rcases factory.exists_comesTo host configured inputs
          (host.report (executing configured.path factory) state) with
        ⟨result, after, comesTo⟩
      have asked (reached : List (ActionFactory Body)) :
          (factory :: reached).filterMap (ActionFactory.invocation? configured inputs) =
            (factory.invocation? configured inputs).toList ++
              reached.filterMap (ActionFactory.invocation? configured inputs) := by
        rw [List.filterMap_cons]
        cases factory.invocation? configured inputs <;> rfl
      by_cases refused : inputs = none ∧ factory.isIncremental = true
      · rcases refused with ⟨missing, takes⟩
        have asksNothing : factory.invocation? configured inputs = none := by
          rw [missing]
          cases factory with
          | standard typeName method => cases takes
          | incremental typeName method => rfl
          | isolated typeName => rfl
        refine ⟨[], List.nil_prefix, fun _ _ member => (List.not_mem_nil member).elim, ?_⟩
        rw [List.filterMap_nil, ← Option.toList_none, ← asksNothing]
        cases comesTo.refused missing takes
        exact (comesTo.invocations _).trans (List.append_nil _)
      · rw [not_and, Bool.not_eq_true] at refused
        cases result with
        | succeeded =>
            rcases ih (done ++ [factory.displayName])
                (host.record configured.path factory.displayName after) with
              ⟨reached, first, without, others⟩
            refine ⟨factory :: reached, (List.prefix_cons_inj factory).mpr first, ?_, ?_⟩
            · exact fun missing => List.forall_mem_cons.mpr ⟨refused missing, without missing⟩
            · rw [asked, ← others]
              exact comesTo.invocations _
        | failed error =>
            refine ⟨[factory], (List.prefix_cons_inj factory).mpr List.nil_prefix, ?_, ?_⟩
            · exact fun missing => List.forall_mem_singleton.mpr (refused missing)
            · rw [asked]
              exact comesTo.invocations _
        | panicked =>
            refine ⟨[factory], (List.prefix_cons_inj factory).mpr List.nil_prefix, ?_, ?_⟩
            · exact fun missing => List.forall_mem_singleton.mpr (refused missing)
            · rw [asked]
              exact comesTo.invocations _

/-- Only an action that takes inputs fails for want of them. -/
theorem missing_of_runActions
    (factories : List (ActionFactory Body))
    {task : String}
    (done : List String)
    (state : State)
    (missing :
      ((runActions configured inputs incremental done factories).run host state).1 =
        .failed (.execution (.missingInputs task))) :
    inputs = none ∧ (∃ factory ∈ factories, factory.isIncremental = true) ∧
      task = configured.path := by
  induction factories generalizing done state with
  | nil => cases missing
  | cons factory factories ih =>
      rcases factory.exists_comesTo host configured inputs
          (host.report (executing configured.path factory) state) with
        ⟨result, after, comesTo⟩
      rw [runActions, Procedure.run, comesTo.run] at missing
      cases result with
      | succeeded =>
          rcases ih _ _ missing with ⟨without, ⟨other, member, takes⟩, named⟩
          exact ⟨without, ⟨other, List.mem_cons_of_mem factory member, takes⟩, named⟩
      | failed error =>
          injection missing with missing
          injection missing with missing
          rcases comesTo.missing task (congrArg ActionResult.failed missing) with
            ⟨without, takes, named⟩
          exact ⟨without, ⟨factory, List.mem_cons_self, takes⟩, named⟩
      | panicked => cases missing

end Actions

end Executer

/-! ## Executions -/

/-- The actions of a type ask for the bodies of its effective methods, and no others. -/
theorem ClassInfo.filterMap_invocation?
    {type : TaskType Body}
    (configured : ConfiguredTask Body Parameters)
    (changes : IncrementalInputs) :
    (ofValid type).factories.filterMap (ActionFactory.invocation? configured (some changes)) =
      type.effective.map fun declaration =>
        ⟨declaration.2, configured, declaration.2.given changes⟩ := by
  have isolated :
      (isolatedActions type).filterMap
          (ActionFactory.invocation? configured (some changes)) = [] := by
    unfold isolatedActions
    split <;> rfl
  unfold ofValid
  rw [List.filterMap_append, isolated, List.append_nil, List.filterMap_map, ← List.filterMap_eq_map]
  apply List.filterMap_congr
  intro declaration _
  exact ActionFactory.invocation?_ofDeclared configured changes declaration

theorem ClassInfo.takesInputs_of_invocation?
    {type : TaskType Body}
    {configured : ConfiguredTask Body Parameters}
    {inputs : Option IncrementalInputs}
    {factory : ActionFactory Body}
    {invocation : Invocation Body Parameters}
    (member : factory ∈ (ofValid type).factories)
    (asks : factory.invocation? configured inputs = some invocation) :
    invocation.method.takesInputs = factory.isIncremental := by
  rcases List.mem_append.mp member with declared | isolated
  · rcases List.mem_map.mp declared with ⟨declaration, -, rfl⟩
    have method : invocation.method = declaration.2 := by
      unfold ActionFactory.ofDeclared at asks
      split at asks
      · rcases Option.map_eq_some_iff.mp asks with ⟨changes, -, rfl⟩
        rfl
      · cases asks
        rfl
    rw [method, ActionFactory.isIncremental_ofDeclared]
  · unfold isolatedActions at isolated
    split at isolated
    · cases List.mem_singleton.mp isolated
      cases asks
    · cases isolated

namespace Executer

theorem effectiveInputs_getD
    {settings : ExecutionSettings}
    {info : ClassInfo Body}
    {inputs : Option IncrementalInputs}
    {changes : IncrementalInputs}
    (given : effectiveInputs settings info inputs = some changes) :
    changes = inputs.getD .rebuild := by
  unfold effectiveInputs at given
  split at given
  · cases given
    rfl
  · split at given
    · cases given
      rfl
    · cases given

/-- What an execution does with the inputs that it is handed or not handed. -/
structure DeliversInputs
    (host : Host Body Parameters State)
    (state : State)
    (configured : ConfiguredTask Body Parameters)
    (info : ClassInfo Body) :
    Prop where
  /-- Missing inputs may be taken for a rebuild. -/
  rebuilds :
    ∀ settings : ExecutionSettings,
      settings.rebuildWhenInputsMissing = true →
        Procedure.SameCourse host state (execute settings configured none)
          (execute settings configured (some .rebuild))
  /-- Where no action takes inputs, neither they nor the settings matter. -/
  indifferent :
    info.incremental = false →
      ∀ settings settings' inputs inputs',
        Procedure.SameCourse host state (execute settings configured inputs)
          (execute settings' configured inputs')
  /-- Where inputs are supplied, the settings do not matter. -/
  supplied :
    ∀ settings settings' inputs,
      Procedure.SameCourse host state (execute settings configured (some inputs))
        (execute settings' configured (some inputs))
  /-- The bodies that are run are those of the first effective methods; one whose only parameter is
  the inputs is given them, or a rebuild, and every other one nothing. -/
  bodies :
    ∀ settings inputs,
      (execute settings configured inputs).invocations host state <+:
        configured.type.effective.map fun declaration =>
          ⟨declaration.2, configured, declaration.2.given (inputs.getD .rebuild)⟩
  oneBody :
    ∀ settings inputs,
      ((execute settings configured inputs).invocations host state).countP
        (fun invocation => invocation.inputs.isSome) ≤ 1
  /-- Without inputs that are supplied or taken for a rebuild, no body that takes them is run. -/
  withoutInputs :
    ∀ settings : ExecutionSettings,
      settings.rebuildWhenInputsMissing = false →
        ∀ invocation ∈ (execute settings configured none).invocations host state,
          invocation.method.takesInputs = false
  refusals :
    ∀ settings inputs task,
      ((execute settings configured inputs).run host state).1 =
          .failed (.execution (.missingInputs task)) →
        info.incremental = true ∧ inputs = none ∧ settings.rebuildWhenInputsMissing = false ∧
          task = configured.path

section Delivery

variable
  {host : Host Body Parameters State}
  {state : State}
  {configured : ConfiguredTask Body Parameters}
  {info : ClassInfo Body}

theorem run_execute
    (answers : (host.classInfo configured.type state).1 = .ok info)
    (settings : ExecutionSettings)
    (inputs : Option IncrementalInputs) :
    (execute settings configured inputs).run host state =
      (runActions configured (effectiveInputs settings info inputs) info.incremental []
          info.factories).run
        host (host.acquire (host.classInfo configured.type state).2) := by
  simp only [execute, Procedure.run]
  rw [answers]
  rfl

theorem deeds_execute
    (answers : (host.classInfo configured.type state).1 = .ok info)
    (settings : ExecutionSettings)
    (inputs : Option IncrementalInputs) :
    (execute settings configured inputs).deeds host state =
      (runActions configured (effectiveInputs settings info inputs) info.incremental []
          info.factories).deeds
        host (host.acquire (host.classInfo configured.type state).2) := by
  simp only [execute, Procedure.deeds]
  rw [answers]
  rfl

theorem sameCourse_execute
    (answers : (host.classInfo configured.type state).1 = .ok info)
    {settings settings' : ExecutionSettings}
    {inputs inputs' : Option IncrementalInputs}
    (same :
      runActions configured (effectiveInputs settings info inputs) info.incremental []
          info.factories =
        runActions configured (effectiveInputs settings' info inputs') info.incremental []
          info.factories) :
    Procedure.SameCourse host state (execute settings configured inputs)
      (execute settings' configured inputs') := by
  constructor
  · rw [run_execute answers, run_execute answers, same]
  · rw [deeds_execute answers, deeds_execute answers, same]

theorem exists_reached_execute
    (answers : (host.classInfo configured.type state).1 = .ok info)
    (settings : ExecutionSettings)
    (inputs : Option IncrementalInputs) :
    ∃ reached,
      reached <+: info.factories ∧
        (effectiveInputs settings info inputs = none →
          ∀ factory ∈ reached, factory.isIncremental = false) ∧
        (execute settings configured inputs).invocations host state =
          reached.filterMap
            (ActionFactory.invocation? configured (some (inputs.getD .rebuild))) := by
  let before := host.acquire (host.classInfo configured.type state).2
  rcases exists_reached_runActions host configured (effectiveInputs settings info inputs)
      info.incremental info.factories [] before with
    ⟨reached, first, without, ran⟩
  refine ⟨reached, first, without, ?_⟩
  rw [Procedure.invocations, deeds_execute answers]
  rw [Procedure.invocations] at ran
  rw [ran]
  cases given : effectiveInputs settings info inputs with
  | some changes => rw [effectiveInputs_getD given]
  | none =>
      apply List.filterMap_congr
      intro factory member
      exact factory.invocation?_of_not_incremental (without given factory member) configured _ _

end Delivery

/-- Incremental inputs reach the one body that takes them, and no other. -/
theorem delivers_inputs
    (host : Host Body Parameters State)
    (state : State)
    (configured : ConfiguredTask Body Parameters)
    (distinct : (configured.type.hierarchy.map TypeLayer.identity).Nodup)
    {info : ClassInfo Body}
    (builds : ClassInfo.build configured.type = .ok info)
    (answers : (host.classInfo configured.type state).1 = .ok info) :
    DeliversInputs host state configured info := by
  have counted := ClassInfo.countP_isIncremental_of_build builds
  have valid := ClassInfo.valid_of_build distinct builds
  have contents : info = .ofValid configured.type :=
    Except.ok.inj (builds.symm.trans (ClassInfo.build_of_valid distinct valid))
  have indifferent
      (plain : info.incremental = false)
      (settings settings' : ExecutionSettings)
      (inputs inputs' : Option IncrementalInputs) :
      Procedure.SameCourse host state (execute settings configured inputs)
        (execute settings' configured inputs') := by
    rw [plain, Bool.toNat_false, List.countP_eq_zero] at counted
    apply sameCourse_execute answers
    apply runActions_of_not_incremental
    exact fun factory member => Bool.not_eq_true _ ▸ counted factory member
  have bodies
      (settings : ExecutionSettings)
      (inputs : Option IncrementalInputs) :
      (execute settings configured inputs).invocations host state <+:
        configured.type.effective.map fun declaration =>
          ⟨declaration.2, configured, declaration.2.given (inputs.getD .rebuild)⟩ := by
    rcases exists_reached_execute answers settings inputs with ⟨reached, first, -, ran⟩
    rw [ran, ← ClassInfo.filterMap_invocation?, ← contents]
    exact first.filterMap _
  refine ⟨?rebuilds, indifferent, ?supplied, bodies, ?oneBody, ?withoutInputs, ?refusals⟩
  case rebuilds =>
    intro settings rebuilds
    cases incremental : info.incremental with
    | false => exact indifferent incremental settings settings none (some .rebuild)
    | true =>
        apply sameCourse_execute answers
        simp only [effectiveInputs, incremental, rebuilds, Bool.and_self, if_true]
  case supplied => exact fun settings settings' inputs => sameCourse_execute answers rfl
  case oneBody =>
    intro settings inputs
    have given (declaration : DeclaredMethod Body) :
        (declaration.2.given (inputs.getD .rebuild)).isSome = declaration.2.takesInputs := by
      unfold ActionMethod.given
      split <;> simp_all
    apply (bodies settings inputs).sublist.countP_le.trans
    rw [List.countP_map]
    simp only [Function.comp_def, given]
    exact valid.oneIncremental
  case withoutInputs =>
    intro settings refuses invocation member
    rcases exists_reached_execute answers settings none with ⟨reached, first, without, ran⟩
    have noInputs : effectiveInputs settings info none = none := by
      simp only [effectiveInputs, refuses, Bool.and_false, Bool.false_eq_true, if_false]
    rw [ran, List.mem_filterMap] at member
    rcases member with ⟨factory, reachedFactory, asks⟩
    have present := first.subset reachedFactory
    rw [contents] at present
    rw [ClassInfo.takesInputs_of_invocation? present asks]
    exact without noInputs factory reachedFactory
  case refusals =>
    intro settings inputs task refused
    rw [run_execute answers] at refused
    rcases missing_of_runActions host configured _ _ _ _ _ refused with
      ⟨without, ⟨factory, member, takes⟩, named⟩
    have incremental : info.incremental = true := by
      rw [← Bool.not_eq_false]
      intro plain
      rw [plain, Bool.toNat_false, List.countP_eq_zero] at counted
      exact counted factory member takes
    cases inputs with
    | some changes => cases without
    | none =>
        have notRebuilt : settings.rebuildWhenInputsMissing = false := by
          rw [← Bool.not_eq_true]
          intro rebuilds
          simp [effectiveInputs, incremental, rebuilds] at without
        exact ⟨incremental, rfl, notRebuilt, named⟩

/-! ## A method created as incremental -/

namespace Syncing

/-- The base prepares and syncs, and the leaf syncs in its own way.  Its last method was created as
incremental, and then its parameters were taken away. -/
def sync : TaskType Unit :=
  { own :=
      ⟨⟨2⟩, "Leaf", true, false,
        [.incremental "sync" (), { ActionMethod.incremental "tidy" () with parameters := [] }]⟩
    ancestors := [⟨⟨1⟩, "Base", false, true, [.standard "prepare" (), .incremental "sync" ()]⟩] }

def configured : ConfiguredTask Unit Unit := ⟨⟨⟨1⟩, ":sync"⟩, sync, none⟩

/-- Every body succeeds. -/
def code : UserCode Unit Unit Unit where
  invoke _ _ _ _ := (.succeeded, ())
  read _ _ := .null
  create _ _ _ := (.succeeded, ())
  perform _ _ _ := (.succeeded, ())

def start : Session Unit Unit Unit := ⟨.fresh, .empty, (), [], false⟩

/-- The one body is given the rebuild that the missing inputs are taken for. -/
theorem delivers_rebuild :
    (sync.hierarchy.map TypeLayer.identity).Nodup ∧
      ClassInfo.build sync = .ok (.ofValid sync) ∧
      (code.host.classInfo sync start).1 = .ok (.ofValid sync) ∧
      DeliversInputs code.host start configured (.ofValid sync) ∧
      ((execute .default configured none).invocations code.host start).map
          (fun invocation => (invocation.method.name, invocation.inputs)) =
        [("sync", some .rebuild), ("tidy", none), ("prepare", none)] := by
  have distinct : (sync.hierarchy.map TypeLayer.identity).Nodup := by decide
  have builds : ClassInfo.build sync = .ok (.ofValid sync) := rfl
  have answers : (code.host.classInfo sync start).1 = .ok (.ofValid sync) := rfl
  exact
    ⟨distinct, builds, answers, delivers_inputs code.host start configured distinct builds answers,
      rfl⟩

end Syncing

end Executer

end TaskDispatch
