import Mathlib.Algebra.Order.BigOperators.Group.Finset
import Mathlib.Data.Fintype.Basic
import Mathlib.Data.List.Indexes
import TaskDispatch.Proofs.Execution.BatchCourse

/-!
# What a batch reports

The tasks of a batch are executed at the same time, on one executer.  The main theorem
`Batch.agrees_with_single_runs` compares this with executing each of them alone: every schedule
comes to an end, and then each task has the report and the records it has alone.  So nothing that
happens to one task, a failure or a panic, shows in the report of another.
-/

namespace TaskDispatch

variable {Body Parameters Result World : Type}

/-- The result of a procedure that is done. -/
def Procedure.result? : Procedure Body Parameters Result → Option Result
  | .done result => some result
  | _ => none

theorem Procedure.result?_eq_some_iff
    {procedure : Procedure Body Parameters Result}
    {result : Result} :
    procedure.result? = some result ↔ procedure = .done result := by
  cases procedure with
  | done other => simp [result?]
  | _ => simp [result?]

namespace Batch

/-- What the workers report, in order, once all of them are done.  Of a panic the runtime gives
notice in words of its own. -/
def reports?
    {count : Nat}
    (notices : Nat → String)
    (batch : Batch Body Parameters World (Fin count)) :
    Option (List (Except DispatchError ExecutionOutcome)) :=
  if ended : ∀ worker, (batch.rest worker).result?.isSome then
    some
      (List.ofFn fun worker =>
        ((batch.rest worker).result?.get (ended worker)).report (notices worker))
  else none

/-- The executions of these tasks, without inputs. -/
def executionsOf
    (settings : ExecutionSettings)
    (tasks : List (ConfiguredTask Body Parameters))
    (worker : Fin tasks.length) :
    Execution Body Parameters :=
  ⟨settings, tasks.get worker, none⟩

section Reports

variable {count : Nat} {notices : Nat → String} {batch : Batch Body Parameters World (Fin count)}

theorem exists_done
    (reported : (batch.reports? notices).isSome)
    (worker : Fin count) :
    ∃ completion, batch.rest worker = .done completion := by
  unfold reports? at reported
  split at reported
  case isTrue ended =>
    rcases Option.isSome_iff_exists.1 (ended worker) with ⟨completion, done⟩
    exact ⟨completion, Procedure.result?_eq_some_iff.1 done⟩
  case isFalse => cases reported

theorem reports?_of_done
    {completions : Fin count → Completion}
    (done : ∀ worker, batch.rest worker = .done (completions worker)) :
    batch.reports? notices =
      some (List.ofFn fun worker => (completions worker).report (notices worker)) := by
  have results (worker : Fin count) :
      (batch.rest worker).result? = some (completions worker) :=
    Procedure.result?_eq_some_iff.2 (done worker)
  simp [reports?, results]

end Reports

/-! ## Batches and single runs -/

/-- True of a batch of tasks that is as each of them comes to alone. -/
structure Agrees
    (code : UserCode Body Parameters World)
    (settings : ExecutionSettings)
    (notices : Nat → String)
    (tasks : List (ConfiguredTask Body Parameters))
    (session alone : Session Body Parameters World)
    (batch : Batch Body Parameters World (Fin tasks.length)) :
    Prop where
  /-- The report of each task is the one it has alone. -/
  reports : ∀ reports, batch.reports? notices = some reports →
    reports =
      tasks.mapIdx fun place task =>
        (code.execute ⟨settings, task, none⟩ alone).1.report (notices place)
  /-- Until all have reported some worker can take a step, and then none can. -/
  goesOn : batch.reports? notices = none ↔ ∃ worker, (batch.step? worker code).isSome
  /-- What was recorded is what was recorded for the tasks, merged. -/
  completed :
    batch.project.completed = session.project.completed ++ batch.ledger.map Prod.snd
  /-- The records of a task are those it has alone, as far as they have been made. -/
  records : ∀ worker,
    batch.recordsOf worker <+:
      (code.execute (executionsOf settings tasks worker) alone).2.project.completed
  /-- Once all have reported, all records have been made and the lock is free. -/
  ended : (batch.reports? notices).isSome →
    batch.project.locked = false ∧
      ∀ worker,
        batch.recordsOf worker =
          (code.execute (executionsOf settings tasks worker) alone).2.project.completed
  /-- Class info is built for types of tasks only, once for each. -/
  built :
    batch.built.Nodup ∧
      ∀ identity ∈ batch.built, ∃ task ∈ tasks, task.type.identity = identity
  constructions :
    batch.store.constructions = session.store.constructions + batch.built.length

/-- True of the reports that a batch of these tasks can come to. -/
def CanReport
    (code : UserCode Body Parameters World)
    (settings : ExecutionSettings)
    (notices : Nat → String)
    (session : Session Body Parameters World)
    (tasks : List (ConfiguredTask Body Parameters))
    (reports : List (Except DispatchError ExecutionOutcome)) :
    Prop :=
  ∃ schedule batch,
    (start (executionsOf settings tasks) session).play? code schedule = some batch ∧
      batch.reports? notices = some reports

section Agreement

variable {code : UserCode Body Parameters World} {types : Set (TaskType Body)}
variable {worlds : Set World} {session : Session Body Parameters World} {notices : Nat → String}

section Workers

variable {count : Nat} {origin : World} {executions : Fin count → Execution Body Parameters}
variable {taken : List (Fin count)} {batch : Batch Body Parameters World (Fin count)}

theorem Underway.length_le
    (underway : Underway code worlds origin types executions session taken batch) :
    taken.length ≤ ∑ worker, ((executions worker).procedure.prospect code origin).steps := by
  calc
    taken.length = ∑ worker ∈ taken.toFinset, taken.count worker :=
      (List.sum_toFinset_count_eq_length taken).symm
    _ ≤ ∑ worker ∈ taken.toFinset, ((executions worker).procedure.prospect code origin).steps :=
      Finset.sum_le_sum fun worker _ => underway.count_le worker
    _ ≤ ∑ worker, ((executions worker).procedure.prospect code origin).steps :=
      Finset.sum_le_sum_of_subset (Finset.subset_univ _)

/-- The reports are there as soon as no worker can take a step. -/
theorem Underway.reports?_eq_none_iff
    (underway : Underway code worlds origin types executions session taken batch) :
    batch.reports? notices = none ↔ ∃ worker, (batch.step? worker code).isSome := by
  constructor
  · intro unreported
    have unfinished : ¬ ∀ worker, ∃ completion, batch.rest worker = .done completion := by
      intro ended
      choose completions done using ended
      rw [reports?_of_done done] at unreported
      cases unreported
    push Not at unfinished
    rcases unfinished with ⟨worker, notDone⟩
    exact underway.exists_step notDone
  · rintro ⟨worker, able⟩
    cases reported : batch.reports? notices with
    | none => rfl
    | some reports =>
        have ended : (batch.reports? notices).isSome := by rw [reported]; rfl
        rcases exists_done ended worker with ⟨completion, done⟩
        rw [step?_of_done done] at able
        cases able

end Workers

variable {settings : ExecutionSettings} {tasks : List (ConfiguredTask Body Parameters)}
variable {alone : Session Body Parameters World}

/-- A batch agrees with single runs all the time. -/
theorem Underway.agrees
    {origin : World}
    {taken : List (Fin tasks.length)}
    {batch : Batch Body Parameters World (Fin tasks.length)}
    (underway :
      Underway code worlds origin types (executionsOf settings tasks) session taken batch)
    (steady : code.Steady types worlds)
    (known : ∀ task ∈ tasks, task.type ∈ types)
    (begun : origin ∈ worlds)
    (ready : alone.Ready types)
    (possible : alone.world ∈ worlds)
    (unlogged : alone.project.completed = []) :
    Agrees code settings notices tasks session alone batch := by
  have single (worker : Fin tasks.length) :=
    UserCode.execute_fulfills steady begun ready possible (executionsOf settings tasks worker)
      (known _ (List.get_mem tasks worker))
  have recorded (worker : Fin tasks.length) :
      (code.execute (executionsOf settings tasks worker) alone).2.project.completed =
        ((executionsOf settings tasks worker).procedure.prospect code origin).records := by
    rw [(single worker).completed, unlogged, List.nil_append]
  constructor
  case reports =>
    intro reports reported
    have ended : (batch.reports? notices).isSome := by rw [reported]; rfl
    choose completions done using exists_done ended
    have same (worker : Fin tasks.length) :
        completions worker = (code.execute (executionsOf settings tasks worker) alone).1 :=
      (underway.eq_of_done (done worker)).1.trans (single worker).result.symm
    rw [reports?_of_done done] at reported
    rw [← Option.some.inj reported, List.mapIdx_eq_ofFn]
    simp only [same]
    rfl
  case goesOn => exact underway.reports?_eq_none_iff
  case completed => exact underway.completed
  case records =>
    intro worker
    rw [recorded]
    exact underway.recordsOf_prefix worker
  case ended =>
    intro reported
    refine ⟨underway.free (exists_done reported), ?_⟩
    intro worker
    rcases exists_done reported worker with ⟨completion, done⟩
    rw [recorded]
    exact (underway.eq_of_done done).2
  case built =>
    refine ⟨underway.served.since.nodup, ?_⟩
    intro identity built
    rcases underway.served.built_of identity built with ⟨worker, rfl⟩
    exact ⟨_, List.get_mem tasks worker, rfl⟩
  case constructions => exact underway.served.since.constructions

/-- A batch that is played from the beginning is underway. -/
theorem underway_of_play?
    (steady : code.Steady types worlds)
    (distinct : types.InjOn TaskType.identity)
    (known : ∀ task ∈ tasks, task.type ∈ types)
    (ready : session.Ready types)
    (possible : session.world ∈ worlds)
    {schedule : List (Fin tasks.length)}
    {batch : Batch Body Parameters World (Fin tasks.length)}
    (played : (start (executionsOf settings tasks) session).play? code schedule = some batch) :
    Underway code worlds session.world types (executionsOf settings tasks) session schedule
      batch := by
  have member (worker : Fin tasks.length) :
      (executionsOf settings tasks worker).configured.type ∈ types :=
    known _ (List.get_mem tasks worker)
  have begun := Underway.start code possible (executionsOf settings tasks) ready possible
  exact begun.play steady distinct member played

/-- Tasks that are executed at the same time agree with tasks that are executed alone.

No schedule goes on for ever.  As long as a task has not reported some worker can take a step, so
that every schedule can be carried on until all have reported; the reports are then, in the order of
the tasks, those that each task has alone, and so are the records of each.  A task that is put in
the place of another, however it ends, changes no report but its own.  The runtime may give notice
of a panic in any words, as long as they are the same. -/
theorem agrees_with_single_runs
    (steady : code.Steady types worlds)
    (distinct : types.InjOn TaskType.identity)
    (settings : ExecutionSettings)
    (notices : Nat → String)
    (tasks : List (ConfiguredTask Body Parameters))
    (known : ∀ task ∈ tasks, task.type ∈ types)
    (ready : session.Ready types)
    (possible : session.world ∈ worlds)
    (aloneReady : alone.Ready types)
    (alonePossible : alone.world ∈ worlds)
    (unlogged : alone.project.completed = []) :
    (∃ bound, ∀ schedule batch,
      (start (executionsOf settings tasks) session).play? code schedule = some batch →
        schedule.length ≤ bound) ∧
    (∀ schedule batch,
      (start (executionsOf settings tasks) session).play? code schedule = some batch →
        Agrees code settings notices tasks session alone batch) ∧
    ∀ position other reports reports', other.type ∈ types →
      CanReport code settings notices session tasks reports →
        CanReport code settings notices session (tasks.set position other) reports' →
          ∀ place, place ≠ position → reports'[place]? = reports[place]? := by
  refine ⟨?ends, ?agrees, ?others⟩
  case ends =>
    let prospects := fun worker =>
      (executionsOf settings tasks worker).procedure.prospect code session.world
    refine ⟨∑ worker, (prospects worker).steps, ?_⟩
    intro schedule batch played
    exact (underway_of_play? steady distinct known ready possible played).length_le
  case agrees =>
    intro schedule batch played
    have underway := underway_of_play? steady distinct known ready possible played
    exact underway.agrees steady known possible aloneReady alonePossible unlogged
  case others =>
    rintro position other reports reports' member ⟨schedule, batch, played, reported⟩
      ⟨schedule', batch', played', reported'⟩ place different
    have known' : ∀ task ∈ tasks.set position other, task.type ∈ types := by
      intro task present
      rcases List.mem_or_eq_of_mem_set present with old | rfl
      · exact known task old
      · exact member
    have underway := underway_of_play? steady distinct known ready possible played
    have underway' := underway_of_play? steady distinct known' ready possible played'
    have agrees : Agrees code settings notices _ session alone batch :=
      underway.agrees steady known possible aloneReady alonePossible unlogged
    have agrees' : Agrees code settings notices _ session alone batch' :=
      underway'.agrees steady known' possible aloneReady alonePossible unlogged
    rw [agrees.reports reports reported, agrees'.reports reports' reported',
      List.getElem?_mapIdx, List.getElem?_mapIdx, List.getElem?_set_ne (Ne.symm different)]

end Agreement

end Batch

/-! ## A batch of all sorts -/

namespace Mixture

open Packing (crash pack packing diskFull)

/-- A graph with a label. -/
def labelled (label : String) : Json := .object [("label", .text label)]

/-- Bodies that end as they are told to.  Those of a task with parameters label the parameters with
the path of the task, and the isolated action asks for the right label. -/
def code : UserCode Outcome String Json where
  invoke method target _ graph :=
    (method.body,
      if target.parameters.isSome then LiveGraph.set "label" (.text target.path) graph else graph)
  read _ graph := graph
  create _ _ graph := (.succeeded, graph)
  perform _ label graph :=
    (if label = ":seal" then .succeeded else .failed (.ofText "wrong label"), graph)

/-- The parameters before they are labelled, and with any label. -/
def graphs : Set Json := {graph | graph = .object [] ∨ ∃ label, graph = labelled label}

/-- A type with an isolated action. -/
def sealing : TaskType Outcome :=
  { own := ⟨⟨3⟩, "Seal", false, true, [.standard "close" .succeeded]⟩
    ancestors := [] }

/-- The actions of a task of that type. -/
def sealingInfo : ClassInfo Outcome where
  typeName := "Seal"
  cacheable := false
  incremental := false
  factories := [.standard "Seal" (.standard "close" .succeeded), .isolated "Seal"]

/-- The actions of a task that panics. -/
def crashing : ClassInfo Outcome where
  typeName := "Crash"
  cacheable := false
  incremental := false
  factories := [.standard "Crash" (.standard "run" .panicked)]

/-- A type whose only method is static. -/
def broken : TaskType Outcome :=
  { own := ⟨⟨4⟩, "Broken", false, false, [⟨"run", true, [], .succeeded⟩]⟩
    ancestors := [] }

/-- An action that takes a label. -/
def stamp : IsolatedAction String where
  name := "Stamp"
  materialize graph :=
    match graph.member? "label" with
    | some (.text label) => .decoded label
    | _ => .refused (.ofText "no label")

/-- A task with an isolated action. -/
def sealTask : ConfiguredTask Outcome String := ⟨⟨⟨10⟩, ":seal"⟩, sealing, some ⟨0, stamp⟩⟩

/-- A task that occurs twice, and tasks that panic, fail, and have no class info. -/
def tasks : List (ConfiguredTask Outcome String) :=
  [ sealTask, ⟨⟨⟨11⟩, ":crash"⟩, crash, none⟩, sealTask,
    ⟨⟨⟨12⟩, ":broken"⟩, broken, none⟩, ⟨⟨⟨13⟩, ":pack"⟩, pack, none⟩ ]

/-- The types of the tasks. -/
def types : List (TaskType Outcome) := [sealing, crash, broken, pack]

/-- An executer on which nothing has been executed, and parameters without a label. -/
def start : Session Outcome String Json := ⟨.fresh, .empty, .object [], [], false⟩

/-- All types are looked up before the first action is run, and the isolated actions, which run
while others hold the lock, are recorded last. -/
def schedule : List (Fin 5) :=
  [ 0, 1, 2, 3, 4, 0, 1, 2, 3, 4, 0, 0, 0, 0, 0, 0, 0, 0, 1, 0, 1, 0, 1, 1, 2, 2, 2, 2, 2, 2, 2, 2,
    4, 2, 4, 2, 4, 4, 4, 4, 4, 4, 0, 0, 0, 2, 0, 2, 2, 2 ]

/-- What the runtime says of a panic. -/
def notices (_ : Nat) : String := "task panicked"

/-- A label takes the place of any other. -/
theorem set_label
    {graph : Json}
    (possible : graph ∈ graphs)
    (label : String) :
    LiveGraph.set "label" (.text label) graph = labelled label := by
  rcases possible with rfl | ⟨other, rfl⟩
  · rfl
  · simp [labelled, LiveGraph.set, Json.insertMember]

theorem invoke_mem
    (method : ActionMethod Outcome)
    (target : ConfiguredTask Outcome String)
    (inputs : Option IncrementalInputs)
    {graph : Json}
    (possible : graph ∈ graphs) :
    (code.invoke method target inputs graph).2 ∈ graphs := by
  unfold code
  dsimp only
  split
  · exact .inr ⟨target.path, set_label possible _⟩
  · exact possible

/-- Once a body of a task has been run, the parameters have the label of the task. -/
theorem eq_labelled_of_leaves
    {configured : ConfiguredTask Outcome String}
    {parameters : IsolatedParameters String}
    (carried : configured.parameters = some parameters)
    {done : List (ActionMethod Outcome × Option IncrementalInputs)}
    {graph : Json}
    (leaves : code.Leaves graphs configured done graph) :
    graph ∈ graphs ∧ (done ≠ [] → graph = labelled configured.path) := by
  induction leaves with
  | begin possible => exact ⟨possible, fun some => absurd rfl some⟩
  | @invoked done graph method inputs leaves succeeded ih =>
      refine ⟨invoke_mem method configured inputs ih.1, fun _ => ?_⟩
      unfold code
      dsimp only
      rw [carried]
      exact set_label ih.1 _
  | created leaves action parameters ih => exact ih
  | performed leaves action parameters ih => exact ih

/-- Only the one type has an isolated action, and a body ahead of it. -/
theorem ne_nil_of_isolated
    {type : TaskType Outcome}
    (member : type ∈ types)
    {info : ClassInfo Outcome}
    (built : ClassInfo.build type = .ok info)
    {declared : List (ActionFactory Outcome)}
    {typeName : String}
    (parts : info.factories = declared ++ [.isolated typeName]) :
    declared.filterMap ActionFactory.method? ≠ [] := by
  have isolated : .isolated typeName ∈ info.factories := by
    rw [parts]
    exact List.mem_append_right _ (List.mem_singleton_self _)
  simp only [types, List.mem_cons, List.not_mem_nil, or_false] at member
  rcases member with rfl | rfl | rfl | rfl
  · cases (show ClassInfo.build sealing = .ok sealingInfo from rfl).symm.trans built
    cases declared with
    | nil => cases parts
    | cons first rest =>
        cases (List.cons.inj parts).1
        exact List.cons_ne_nil _ _
  · cases (show ClassInfo.build crash = .ok crashing from rfl).symm.trans built
    simp [crashing] at isolated
  · cases built
  · cases (show ClassInfo.build pack = .ok packing from rfl).symm.trans built
    simp [packing] at isolated

theorem steady_code : code.Steady {type | type ∈ types} graphs where
  invoke _ _ _ _ _ _ _ := rfl
  create _ _ _ _ _ _ := rfl
  perform _ _ _ _ _ _ := rfl
  read := by
    intro configured parameters info declared typeName done graph graph' member carried built parts
      bodies leaves leaves'
    have some : done ≠ [] := by
      rintro rfl
      exact ne_nil_of_isolated member built parts bodies.symm
    show graph = graph'
    rw [(eq_labelled_of_leaves carried leaves).2 some,
      (eq_labelled_of_leaves carried leaves').2 some]
  invoke_mem method target inputs _ possible := invoke_mem method target inputs possible
  create_mem _ _ _ possible := possible
  perform_mem _ _ _ possible := possible

/-- What the played schedule leaves. -/
theorem play_schedule :
    ((Batch.start (Batch.executionsOf .default tasks) start).play? code schedule).map
        (fun batch =>
          ((batch.reports? notices).isSome, batch.project.completed, batch.built)) =
      some
        ( true,
          [ ⟨":seal", "Seal.close()"⟩, ⟨":seal", "Seal.close()"⟩, ⟨":pack", "Pack.open()"⟩,
            ⟨":seal", "Seal (isolated)"⟩, ⟨":seal", "Seal (isolated)"⟩ ],
          [⟨3⟩, ⟨1⟩, ⟨4⟩, ⟨2⟩] ) := by
  rfl

/-- Neither the task that panics nor those that fail show in the reports of the others. -/
theorem reports_as_alone :
    code.Steady {type | type ∈ types} graphs ∧
      Set.InjOn TaskType.identity {type | type ∈ types} ∧
      (∀ task ∈ tasks, task.type ∈ types) ∧
      start.Ready {type | type ∈ types} ∧
      start.world ∈ graphs ∧
      ∃ batch,
        (Batch.start (Batch.executionsOf .default tasks) start).play? code schedule = some batch ∧
          batch.reports? notices =
            some
              [ .ok ⟨":seal", ["Seal.close()", "Seal (isolated)"], false⟩,
                .error (.internal ("Task execution worker failed: " ++ "task panicked")),
                .ok ⟨":seal", ["Seal.close()", "Seal (isolated)"], false⟩,
                .error (.metadata (.staticMethod "Broken" "run")),
                .error (.execution (.actionFailed ":pack" "Pack.fill()" diskFull)) ] ∧
          (∀ worker, batch.step? worker code = none) ∧
          batch.store.constructions = 4 := by
  have distinct : Set.InjOn TaskType.identity {type | type ∈ types} :=
    List.inj_on_of_nodup_map (by decide)
  have known : ∀ task ∈ tasks, task.type ∈ types := by simp [tasks, types, sealTask]
  have ready : start.Ready {type | type ∈ types} := ⟨rfl, rfl, Store.remembers_empty _⟩
  have possible : start.world ∈ graphs := .inl rfl
  refine ⟨steady_code, distinct, known, ready, possible, ?_⟩
  rcases Option.map_eq_some_iff.1 play_schedule with ⟨batch, played, outcome⟩
  rcases Prod.mk.inj outcome with ⟨reported, rest⟩
  rcases Prod.mk.inj rest with ⟨-, built⟩
  have agrees :=
    (Batch.agrees_with_single_runs steady_code distinct .default notices tasks known ready possible
      ready possible rfl).2.1 schedule batch played
  rcases Option.isSome_iff_exists.1 reported with ⟨reports, reportsEq⟩
  refine ⟨batch, played, ?_, ?_, ?_⟩
  · rw [reportsEq, agrees.reports reports reportsEq]
    rfl
  · intro worker
    cases stepped : batch.step? worker code with
    | none => rfl
    | some after =>
        have unreported := agrees.goesOn.2 ⟨worker, by rw [stepped]; rfl⟩
        rw [reportsEq] at unreported
        cases unreported
  · rw [agrees.constructions, built]
    rfl

end Mixture

end TaskDispatch
