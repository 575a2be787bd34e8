import TaskDispatch.Proofs.Action.FactoryOrder
import TaskDispatch.Proofs.Execution.Course

/-!
# Executions refused for want of inputs

A task with an incremental action is executed without inputs, and its settings do not take that for
a rebuild.  Such an execution never succeeds, but it is refused only when the turn of the
incremental action comes: the actions ahead of it are run and recorded like those of any other
execution, and one of them that does not succeed ends it with an error of its own.

The theorem `UserCode.refused_in_turn` says so of every such execution.  User code is left alone,
and the project as it was, exactly where no action is ahead of the incremental one.
-/

namespace TaskDispatch

variable {Body Parameters World : Type}

/-- Ahead of an incremental action there are standard ones only. -/
theorem IsolatedLast.exists_ahead
    {factories : List (ActionFactory Body)}
    (isolatedLast : IsolatedLast factories)
    (takes : ∃ factory ∈ factories, factory.isIncremental = true) :
    ∃ ahead typeName method behind,
      factories = ahead ++ .incremental typeName method :: behind ∧
        ∀ factory ∈ ahead, factory.kind = .standard := by
  induction factories with
  | nil => exact absurd takes.choose_spec.1 List.not_mem_nil
  | cons factory factories ih =>
      rcases isolatedLast with ⟨declared, isolatedLast⟩
      rcases takes with ⟨other, member, takes⟩
      cases factory with
      | standard typeName method =>
          have later : other ∈ factories := by
            rcases List.mem_cons.mp member with rfl | later
            · cases takes
            · exact later
          rcases ih isolatedLast ⟨other, later, takes⟩ with
            ⟨ahead, name, incremental, behind, parts, standard⟩
          refine ⟨.standard typeName method :: ahead, name, incremental, behind, ?_, ?_⟩
          · rw [parts, List.cons_append]
          · exact List.forall_mem_cons.mpr ⟨rfl, standard⟩
      | incremental typeName method =>
          exact ⟨[], typeName, method, factories, rfl, fun _ none => (List.not_mem_nil none).elim⟩
      | isolated typeName =>
          rcases declared with declared | last
          · cases declared
          · rw [last] at member
            cases List.mem_singleton.mp member
            cases takes

/-- How an execution ends that is refused after some actions, if these come to the result. -/
def ActionResult.refusal (task : String) : ActionResult → Completion
  | .succeeded => .failed (.execution (.missingInputs task))
  | .failed error => .failed (.execution error)
  | .panicked => .panicked

theorem ActionResult.refusal_of_unsuccessful
    {result : ActionResult}
    (unsuccessful : result ≠ .succeeded)
    (task : String)
    (names : List String)
    (incremental : Bool) :
    result.completion task names incremental = result.refusal task := by
  cases result with
  | succeeded => exact absurd rfl unsuccessful
  | failed error => rfl
  | panicked => rfl

namespace Course

variable
  {code : UserCode Body Parameters World}
  {configured : ConfiguredTask Body Parameters}
  {factories ahead behind succeeded : List (ActionFactory Body)}
  {exchanges : List (Exchange Body Parameters)}
  {result : ActionResult}
  {before after : World}

/-- Without inputs the course of actions is that of the actions ahead of the incremental one. -/
theorem of_refused
    {typeName : String}
    {method : ActionMethod Body}
    (course :
      Course code configured none (ahead ++ .incremental typeName method :: behind) before exchanges
        succeeded result after) :
    ∃ reached,
      Course code configured none ahead before exchanges succeeded reached after ∧
        ∀ names incremental,
          result.completion configured.path names incremental =
            reached.refusal configured.path := by
  induction ahead generalizing before exchanges succeeded with
  | nil =>
      cases course with
      | stopped attempt unsuccessful =>
          cases attempt with
          | incremental supplied => cases supplied
          | withoutInputs => exact ⟨.succeeded, .finished _, fun _ _ => rfl⟩
      | succeeded attempt rest =>
          cases attempt with
          | incremental supplied => cases supplied
  | cons factory ahead ih =>
      cases course with
      | stopped attempt unsuccessful =>
          refine ⟨result, .stopped attempt unsuccessful, ?_⟩
          exact ActionResult.refusal_of_unsuccessful unsuccessful _
      | succeeded attempt rest =>
          rcases ih rest with ⟨reached, course, refused⟩
          exact ⟨reached, .succeeded attempt course, refused⟩

/-- Standard actions ask for a body before anything else can happen. -/
theorem eq_nil_of_standard
    (course : Course code configured none factories before [] succeeded result after)
    (standard : ∀ factory ∈ factories, factory.kind = .standard) :
    factories = [] := by
  generalize asked : ([] : List (Exchange Body Parameters)) = exchanges at course
  cases course with
  | finished => rfl
  | stopped attempt =>
      cases attempt with
      | standard => cases asked
      | withoutInputs => cases standard _ List.mem_cons_self
      | withoutParameters => cases standard _ List.mem_cons_self
      | notMaterialized => cases standard _ List.mem_cons_self
      | panickedInDecoding => cases standard _ List.mem_cons_self
      | incremental => cases asked
      | notCreated => cases asked
      | panickedInCreate => cases asked
      | isolated => cases asked
  | succeeded attempt =>
      cases attempt with
      | standard => cases asked
      | incremental => cases asked
      | isolated => cases asked

end Course

/-- An execution without the inputs that its task needs is refused when their turn comes. -/
theorem UserCode.refused_in_turn
    (code : UserCode Body Parameters World)
    {types : Set (TaskType Body)}
    {session : Session Body Parameters World}
    (ready : session.Ready types)
    (execution : Execution Body Parameters)
    (member : execution.configured.type ∈ types)
    {info : ClassInfo Body}
    (builds : ClassInfo.build execution.configured.type = .ok info)
    (incremental : info.incremental = true)
    (notRebuilt : execution.settings.rebuildWhenInputsMissing = false)
    (missing : execution.inputs = none) :
    let completion := (code.execute execution session).1
    let after := (code.execute execution session).2
    let refused := Completion.failed (.execution (.missingInputs execution.configured.path))
    ∃ ahead typeName method behind,
      info.factories = ahead ++ .incremental typeName method :: behind ∧
        (∀ factory ∈ ahead, factory.kind = .standard) ∧
        (∃ exchanges succeeded result,
          Course code execution.configured none ahead session.world exchanges succeeded result
              after.world ∧
            after.exchanges = session.exchanges ++ exchanges ∧
            after.project =
              ⟨false, session.project.completed ++ succeeded.map execution.entry⟩ ∧
            completion = result.refusal execution.configured.path) ∧
        (completion = refused ∧
            after.exchanges = session.exchanges ∧
            after.project = session.project ↔
          ahead = []) := by
  intro completion after refused
  have takes : ∃ factory ∈ info.factories, factory.isIncremental = true := by
    rw [← List.countP_pos_iff, ClassInfo.countP_isIncremental_of_build builds, incremental]
    exact Nat.one_pos
  rcases (ClassInfo.isolatedLast_of_build builds).exists_ahead takes with
    ⟨ahead, typeName, method, behind, parts, standard⟩
  rcases course_of_execute code ready member builds with
    ⟨exchanges, succeeded, result, world, course, ran⟩
  have noInputs :
      Executer.effectiveInputs execution.settings info execution.inputs = none := by
    simp [Executer.effectiveInputs, missing, notRebuilt]
  rw [noInputs, parts] at course
  rcases course.of_refused with ⟨reached, course, stopped⟩
  have ended : completion = _ := congrArg Prod.fst ran
  have state : after = _ := congrArg Prod.snd ran
  have asked : after.exchanges = session.exchanges ++ exchanges := by rw [state, Session.past]
  have recorded :
      after.project = ⟨false, session.project.completed ++ succeeded.map execution.entry⟩ := by
    rw [state, Session.past]
    rfl
  have outcome : completion = reached.refusal execution.configured.path := by
    rw [ended]
    exact stopped _ _
  refine ⟨ahead, typeName, method, behind, parts, standard, ?course, ?untouched⟩
  case course =>
    refine ⟨exchanges, succeeded, reached, ?_, asked, recorded, outcome⟩
    rw [state]
    exact course
  case untouched =>
    constructor
    · rintro ⟨-, noneAsked, -⟩
      rw [asked, List.append_right_eq_self] at noneAsked
      rw [noneAsked] at course
      exact course.eq_nil_of_standard standard
    · intro first
      rw [first] at course
      cases course
      rw [List.append_nil] at asked
      rw [List.map_nil, List.append_nil] at recorded
      refine ⟨outcome, asked, ?_⟩
      rw [recorded, ← ready.free]

/-! ## An action ahead of the incremental one -/

namespace Preparing

/-- A type that prepares before it syncs. -/
def sync (prepared : Outcome) : TaskType Outcome :=
  { own :=
      ⟨⟨1⟩, "Sync", false, false, [.standard "prepare" prepared, .incremental "sync" .succeeded]⟩
    ancestors := [] }

/-- An execution without inputs, under settings that refuse it. -/
def execution (prepared : Outcome) : Execution Outcome Unit :=
  { settings := { ExecutionSettings.default with rebuildWhenInputsMissing := false }
    configured := ⟨⟨⟨1⟩, ":sync"⟩, sync prepared, none⟩
    inputs := none }

def syncing (prepared : Outcome) : ClassInfo Outcome where
  typeName := "Sync"
  cacheable := false
  incremental := true
  factories :=
    [ .standard "Sync" (.standard "prepare" prepared),
      .incremental "Sync" (.incremental "sync" .succeeded) ]

/-- The body that prepares is run and recorded before the refusal, and if it fails, there is no
refusal. -/
theorem prepared_before_refusal :
    ClassInfo.build (sync .succeeded) = .ok (syncing .succeeded) ∧
      (syncing .succeeded).incremental = true ∧
      (execution .succeeded).settings.rebuildWhenInputsMissing = false ∧
      (execution .succeeded).inputs = none ∧
      (Packing.code.execute (execution .succeeded) Packing.start).1 =
        .failed (.execution (.missingInputs ":sync")) ∧
      (Packing.code.execute (execution .succeeded) Packing.start).2.exchanges ≠
        Packing.start.exchanges ∧
      (Packing.code.execute (execution .succeeded) Packing.start).2.project.completed =
        [⟨":sync", "Sync.prepare()"⟩] ∧
      Packing.start.project.completed = [] ∧
      (Packing.code.execute (execution (.failed Packing.diskFull)) Packing.start).1 =
        .failed (.execution (.actionFailed ":sync" "Sync.prepare()" Packing.diskFull)) := by
  refine ⟨rfl, rfl, rfl, rfl, rfl, ?_, rfl, rfl, rfl⟩
  exact List.cons_ne_nil _ _

/-- Where a body panics first, the execution panics. -/
theorem panicked_before_refusal :
    Packing.start.Ready {sync .panicked} ∧
      ClassInfo.build (sync .panicked) = .ok (syncing .panicked) ∧
      ∃ ahead exchanges,
        ahead ≠ [] ∧
          Course Packing.code (execution .panicked).configured none ahead 0 exchanges []
            .panicked 1 := by
  have ready : Packing.start.Ready {sync .panicked} := ⟨rfl, rfl, Store.remembers_empty _⟩
  have builds : ClassInfo.build (sync .panicked) = .ok (syncing .panicked) := rfl
  refine ⟨ready, builds, ?_⟩
  rcases UserCode.refused_in_turn Packing.code ready (execution .panicked) rfl builds rfl rfl
      rfl with
    ⟨ahead, typeName, method, behind, -, -, ⟨exchanges, succeeded, result, course, -, recorded,
      ended⟩, untouched⟩
  have completion :
      (Packing.code.execute (execution .panicked) Packing.start).1 = .panicked :=
    rfl
  have someAhead : ahead ≠ [] := by
    intro first
    cases completion.symm.trans (untouched.mpr first).1
  have noneRecorded : [] = succeeded.map (execution .panicked).entry :=
    congrArg Project.completed recorded
  cases List.map_eq_nil_iff.mp noneRecorded.symm
  cases result with
  | succeeded => cases completion.symm.trans ended
  | failed error => cases completion.symm.trans ended
  | panicked => exact ⟨ahead, exchanges, someAhead, course⟩

end Preparing

end TaskDispatch
