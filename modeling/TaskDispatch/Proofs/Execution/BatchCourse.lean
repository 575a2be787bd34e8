import TaskDispatch.Proofs.Execution.Batch

/-!
# The course of a batch

The prospect of every execution of a batch is what has been recorded for it, followed by the
prospect of what its worker still does: a batch is `OnCourse`, whatever the schedule.  What other
workers make of the world does not matter to it, because none of them runs a body while the worker
holds the lock.  So no schedule can go on for ever, and as long as there is a worker that is not
done, one of them can take a step.
-/

namespace TaskDispatch

variable {Body Parameters Result World Worker : Type}

theorem Prospect.before_before
    (prospect : Prospect Result)
    (records earlier : List CompletedAction)
    (steps further : Nat) :
    (prospect.before records steps).before earlier further =
      prospect.before (earlier ++ records) (further + steps) := by
  simp only [Prospect.before, List.append_assoc, Nat.add_assoc]

theorem Project.completed_of_after?
    {project after : Project}
    {act : Act Body}
    (admitted : project.after? act = some after) :
    after.completed = project.completed ++ act.entries := by
  cases act with
  | acquired =>
      simp only [Project.after?] at admitted
      split at admitted
      · cases admitted
      · cases admitted
        exact (List.append_nil _).symm
  | recorded entry =>
      cases admitted
      rfl
  | _ =>
      cases admitted
      exact (List.append_nil _).symm

namespace Batch

/-! ## Prospects -/

/-- A batch on its way to the prospects of its executions, after these steps were taken. -/
structure OnCourse
    [DecidableEq Worker]
    (code : UserCode Body Parameters World)
    (worlds : Set World)
    (origin : World)
    (executions : Worker → Execution Body Parameters)
    (before : List CompletedAction)
    (taken : List Worker)
    (duties : Worker → Duty Body)
    (batch : Batch Body Parameters World Worker) :
    Prop where
  possible : batch.world ∈ worlds
  concerns : ∀ worker, (batch.rest worker).Concerns (executions worker).configured
  /-- A lookup of which one step has been taken counts when the other has. -/
  prospect : ∀ worker, ∃ steps, ∃ elsewhere ∈ worlds,
    (executions worker).procedure.prospect code origin =
        ((batch.rest worker).prospect code elsewhere).before (batch.recordsOf worker) steps ∧
      (taken.count worker = steps + if (batch.opened worker).isSome then 1 else 0) ∧
      (duties worker).Alike code worlds (executions worker).configured elsewhere batch.world
  completed : batch.project.completed = before ++ batch.ledger.map Prod.snd

namespace OnCourse

variable [DecidableEq Worker]
variable {code : UserCode Body Parameters World} {types : Set (TaskType Body)}
variable {worlds : Set World} {origin : World} {executions : Worker → Execution Body Parameters}
variable {before : List CompletedAction} {taken : List Worker} {duties : Worker → Duty Body}
variable {batch : Batch Body Parameters World Worker} {worker : Worker}

theorem start
    (code : UserCode Body Parameters World)
    (begun : origin ∈ worlds)
    (executions : Worker → Execution Body Parameters)
    (session : Session Body Parameters World)
    (possible : session.world ∈ worlds) :
    OnCourse code worlds origin executions session.project.completed [] (fun _ => .looking)
      (start executions session) where
  possible := possible
  concerns worker := (executions worker).concerns_procedure
  prospect worker :=
    ⟨0, origin, begun, by rw [Prospect.before, Nat.zero_add]; rfl, rfl, trivial⟩
  completed := (List.append_nil _).symm

theorem obtain
    (course : OnCourse code worlds origin executions before taken duties batch)
    (unopened : batch.opened worker = none)
    (type : TaskType Body) :
    OnCourse code worlds origin executions before (taken ++ [worker]) duties
      (batch.obtain worker type) where
  possible := course.possible
  concerns := course.concerns
  completed := course.completed
  prospect := by
    intro other
    rcases course.prospect other with ⟨steps, elsewhere, begun, ahead, counted, alike⟩
    refine ⟨steps, elsewhere, begun, ahead, ?_, alike⟩
    by_cases same : other = worker
    · subst same
      rw [unopened] at counted
      simp [counted]
    · rw [opened_obtain_other same]
      simp [counted, Ne.symm same]

theorem settle
    (course : OnCourse code worlds origin executions before taken duties batch)
    {type : TaskType Body}
    {next : ClassInfoResult Body → Procedure Body Parameters Completion}
    (asks : batch.rest worker = .classInfo type next)
    {cell : CellId}
    (opened : batch.opened worker = some cell)
    (found : (batch.store.settle cell type).1.result = ClassInfo.build type)
    {later : Duty Body}
    (moves :
      Duty.Moves (executions worker).configured (duties worker) (.found (ClassInfo.build type))
        later) :
    OnCourse code worlds origin executions before (taken ++ [worker])
      (Function.update duties worker later) (batch.settle worker type cell next) where
  possible := course.possible
  completed := course.completed
  concerns := by
    intro other
    by_cases same : other = worker
    · subst same
      have concerns := course.concerns other
      rw [asks] at concerns
      rw [rest_settle_self, found]
      exact concerns
    · rw [rest_settle_other same]
      exact course.concerns other
  prospect := by
    intro other
    rcases course.prospect other with ⟨steps, elsewhere, begun, ahead, counted, alike⟩
    by_cases same : other = worker
    · subst same
      rw [opened] at counted
      rw [asks, Procedure.prospect, Prospect.before_before] at ahead
      refine ⟨steps + 2, elsewhere, begun, ?_, by simp [counted], ?_⟩
      · rw [rest_settle_self, recordsOf_settle, found]
        simpa using ahead
      · rw [Function.update_self]
        exact Duty.alike_of_found moves elsewhere _
    · rw [rest_settle_other same, opened_settle_other same, Function.update_of_ne same]
      exact ⟨steps, elsewhere, begun, ahead, by simp [counted, Ne.symm same], alike⟩

theorem advance
    (course : OnCourse code worlds origin executions before taken duties batch)
    (steady : code.Steady types worlds)
    (known : ∀ worker, (executions worker).configured.type ∈ types)
    (unopened : batch.opened worker = none)
    {act : Act Body}
    {rest : Procedure Body Parameters Completion}
    {project : Project}
    {world : World}
    (replied : (batch.rest worker).reply? code batch.world = some (act, rest, world))
    (admitted : batch.project.after? act = some project)
    {later : Duty Body}
    (moves : Duty.Moves (executions worker).configured (duties worker) act later)
    (apart :
      ∀ other, other ≠ worker → (duties other).Holds →
        ∀ method outcome, act ≠ .invoked method outcome) :
    OnCourse code worlds origin executions before (taken ++ [worker])
      (Function.update duties worker later) (batch.advance worker act rest project world) where
  possible := steady.mem_of_reply? course.possible replied
  completed := by
    rw [Batch.advance]
    simp [Project.completed_of_after? admitted, course.completed, Function.comp_def]
  concerns := by
    intro other
    by_cases same : other = worker
    · subst same
      rw [rest_advance_self]
      exact (course.concerns other).step (Procedure.takes_of_reply? replied)
    · rw [rest_advance_other same]
      exact course.concerns other
  prospect := by
    intro other
    rcases course.prospect other with ⟨steps, elsewhere, begun, ahead, counted, alike⟩
    by_cases same : other = worker
    · subst same
      rcases Procedure.prospect_of_reply? steady (known other) begun course.possible alike
          (course.concerns other) replied moves with ⟨beyond, stillBegun, stillAlike, further⟩
      rw [further, Prospect.before_before] at ahead
      rw [unopened] at counted
      refine ⟨steps + 1, beyond, stillBegun, ?_, by simp [counted, unopened], ?_⟩
      · rw [rest_advance_self, recordsOf_advance_self]
        exact ahead
      · rw [Function.update_self]
        exact stillAlike
    · rw [rest_advance_other same, recordsOf_advance_other same, opened_advance,
        Function.update_of_ne same]
      exact
        ⟨steps, elsewhere, begun, ahead, by simp [counted, Ne.symm same],
          alike.of_reply? replied (apart other same)⟩

end OnCourse

/-! ## Workers that can go on -/

section Progress

variable [DecidableEq Worker] {code : UserCode Body Parameters World}
variable {batch : Batch Body Parameters World Worker} {worker : Worker}

theorem step?_of_done
    {completion : Completion}
    (done : batch.rest worker = .done completion) :
    batch.step? worker code = none := by
  simp [step?, done, Procedure.reply?]

/-- A worker that is not done can take a step, unless it asks for a lock that is held. -/
theorem isSome_step?
    (notDone : ∀ completion, batch.rest worker ≠ .done completion)
    (admitted : batch.project.locked = false ∨ ∀ next, batch.rest worker ≠ .acquire next) :
    (batch.step? worker code).isSome := by
  cases asks : batch.rest worker with
  | done completion => exact absurd asks (notDone completion)
  | acquire next =>
      rcases admitted with free | never
      · simp [step?, asks, Procedure.reply?, Project.after?, free]
      · exact absurd asks (never next)
  | classInfo type next =>
      cases opened : batch.opened worker with
      | none => simp [step?, asks, opened]
      | some cell => simp [step?, asks, opened]
  | _ => simp [step?, asks, Procedure.reply?, Project.after?]

end Progress

namespace Manned

variable {executions : Worker → Execution Body Parameters}
variable {rest : Worker → Procedure Body Parameters Completion} {project : Project}
variable {duties : Worker → Duty Body} {holder : Option Worker} {worker : Worker}

theorem ne_done
    (manned : Manned executions rest project duties holder)
    (held : holder = some worker)
    (completion : Completion) :
    rest worker ≠ .done completion := by
  intro done
  have holds := (manned.holds_iff worker).2 held
  have final := manned.follows worker
  rw [done] at final
  cases duty : duties worker with
  | refused => exact (duty ▸ holds).elim
  | away left => exact (duty ▸ holds).elim
  | _ => exact (duty ▸ final).elim

theorem ne_acquire
    (manned : Manned executions rest project duties holder)
    (held : holder = some worker)
    (next : Procedure Body Parameters Completion) :
    rest worker ≠ .acquire next := by
  intro asks
  have follows := manned.follows worker
  rw [asks] at follows
  rcases follows with ⟨later, moves, -⟩
  exact moves.not_holds_of_acquired ((manned.holds_iff worker).2 held)

end Manned

/-! ## Schedules -/

/-- What stays true of a batch, after these steps were taken. -/
structure Underway
    [DecidableEq Worker]
    (code : UserCode Body Parameters World)
    (worlds : Set World)
    (origin : World)
    (types : Set (TaskType Body))
    (executions : Worker → Execution Body Parameters)
    (session : Session Body Parameters World)
    (taken : List Worker)
    (batch : Batch Body Parameters World Worker) :
    Prop where
  mannedOnCourse : ∃ duties holder,
    Manned executions batch.rest batch.project duties holder ∧
      OnCourse code worlds origin executions session.project.completed taken duties batch
  served : Served types executions session.store batch

namespace Underway

variable [DecidableEq Worker]
variable {code : UserCode Body Parameters World} {worlds : Set World} {origin : World}
variable {types : Set (TaskType Body)} {executions : Worker → Execution Body Parameters}
variable {session : Session Body Parameters World} {taken : List Worker}
variable {batch after : Batch Body Parameters World Worker} {worker : Worker}

theorem start
    (code : UserCode Body Parameters World)
    (begun : origin ∈ worlds)
    (executions : Worker → Execution Body Parameters)
    (ready : session.Ready types)
    (possible : session.world ∈ worlds) :
    Underway code worlds origin types executions session [] (start executions session) where
  mannedOnCourse :=
    ⟨_, _, .start executions ready.free, .start code begun executions session possible⟩
  served := .start ready.remembers executions

section Steady

variable (steady : code.Steady types worlds) (distinct : types.InjOn TaskType.identity)
variable (known : ∀ worker, (executions worker).configured.type ∈ types)

include steady distinct known

theorem step
    (underway : Underway code worlds origin types executions session taken batch)
    (steps : Steps code batch worker after) :
    Underway code worlds origin types executions session (taken ++ [worker]) after := by
  rcases underway.mannedOnCourse with ⟨duties, holder, manned, onCourse⟩
  cases steps with
  | obtain asks unopened =>
      rcases manned.asks asks with ⟨first, isType⟩
      exact
        { mannedOnCourse := ⟨duties, holder, manned, onCourse.obtain unopened _⟩
          served := underway.served.obtain first isType }
  | settle asks opened =>
      rename_i type next cell
      have isType := (manned.asks asks).2
      have member : type ∈ types := isType ▸ known worker
      have cached : batch.store.cell? type.identity = some cell :=
        isType ▸ (underway.served.opened worker cell opened).2
      have found := underway.served.recalls.result_settle member cached
      have takes :
          (batch.rest worker).Takes (.found (ClassInfo.build type))
            (next (batch.store.settle cell type).1.result) := by
        rw [asks, found]
        exact .classInfo
      rcases manned.step takes rfl with ⟨later, holder', moves, stillManned⟩
      exact
        { mannedOnCourse :=
            ⟨_, holder', stillManned, onCourse.settle asks opened found moves⟩
          served := underway.served.settle distinct member isType cached next }
  | @advance act rest project world replied admitted =>
      have unopened := underway.served.unopened replied
      rcases manned.step (Procedure.takes_of_reply? replied) admitted with
        ⟨later, holder', moves, stillManned⟩
      -- Only the worker that holds the lock runs a body.
      have apart (other : Worker) (different : other ≠ worker) (holds : (duties other).Holds)
          (method : ActionMethod Body) (outcome : Outcome) :
          act ≠ .invoked method outcome := by
        rintro rfl
        have held := (manned.holds_iff worker).1 moves.holds_of_invoked
        exact different (Option.some.inj (((manned.holds_iff other).1 holds).symm.trans held))
      exact
        { mannedOnCourse :=
            ⟨_, holder', stillManned,
              onCourse.advance steady known unopened replied admitted moves apart⟩
          served := underway.served.advance replied _ }

/-- A batch stays underway along every schedule. -/
theorem play
    {schedule : List Worker}
    (underway : Underway code worlds origin types executions session taken batch)
    (played : batch.play? code schedule = some after) :
    Underway code worlds origin types executions session (taken ++ schedule) after := by
  induction schedule generalizing batch taken with
  | nil =>
      cases played
      rw [List.append_nil]
      exact underway
  | cons worker later ih =>
      unfold play? at played
      split at played
      · cases played
      · rename_i next stepped
        have stepped := underway.step steady distinct known (steps_of_step? stepped)
        rw [List.append_cons]
        exact ih stepped played

end Steady

theorem completed
    (underway : Underway code worlds origin types executions session taken batch) :
    batch.project.completed = session.project.completed ++ batch.ledger.map Prod.snd := by
  rcases underway.mannedOnCourse with ⟨duties, holder, -, onCourse⟩
  exact onCourse.completed

/-- A worker takes no more steps than its execution has. -/
theorem count_le
    (underway : Underway code worlds origin types executions session taken batch)
    (worker : Worker) :
    taken.count worker ≤ ((executions worker).procedure.prospect code origin).steps := by
  rcases underway.mannedOnCourse with ⟨duties, holder, -, onCourse⟩
  rcases onCourse.prospect worker with ⟨steps, elsewhere, -, ahead, counted, -⟩
  rw [ahead, counted]
  apply Nat.add_le_add_left
  split
  case isTrue opened =>
    rcases Option.isSome_iff_exists.1 opened with ⟨cell, opened⟩
    rw [(underway.served.opened worker cell opened).1]
    exact (Nat.le_add_right 1 1).trans (Nat.le_add_right 2 _)
  case isFalse => exact Nat.zero_le _

theorem recordsOf_prefix
    (underway : Underway code worlds origin types executions session taken batch)
    (worker : Worker) :
    batch.recordsOf worker <+: ((executions worker).procedure.prospect code origin).records := by
  rcases underway.mannedOnCourse with ⟨duties, holder, -, onCourse⟩
  rcases onCourse.prospect worker with ⟨steps, elsewhere, -, ahead, -⟩
  rw [ahead]
  exact List.prefix_append _ _

/-- A worker that is done has come to the prospect of its execution. -/
theorem eq_of_done
    (underway : Underway code worlds origin types executions session taken batch)
    {completion : Completion}
    (done : batch.rest worker = .done completion) :
    completion = ((executions worker).procedure.prospect code origin).result ∧
      batch.recordsOf worker =
        ((executions worker).procedure.prospect code origin).records := by
  rcases underway.mannedOnCourse with ⟨duties, holder, -, onCourse⟩
  rcases onCourse.prospect worker with ⟨steps, elsewhere, -, ahead, -⟩
  rw [done] at ahead
  rw [ahead]
  exact ⟨rfl, (List.append_nil _).symm⟩

/-! ## Progress -/

/-- Once all workers are done the lock is free. -/
theorem free
    (underway : Underway code worlds origin types executions session taken batch)
    (ended : ∀ worker, ∃ completion, batch.rest worker = .done completion) :
    batch.project.locked = false := by
  rcases underway.mannedOnCourse with ⟨duties, holder, manned, -⟩
  cases holder with
  | none => exact manned.locked
  | some holder =>
      rcases ended holder with ⟨completion, done⟩
      exact absurd done (manned.ne_done rfl completion)

/-- As long as a worker is not done, some worker can take a step: if the lock is held, its holder
can. -/
theorem exists_step
    (underway : Underway code worlds origin types executions session taken batch)
    (notDone : ∀ completion, batch.rest worker ≠ .done completion) :
    ∃ next, (batch.step? next code).isSome := by
  rcases underway.mannedOnCourse with ⟨duties, holder, manned, -⟩
  cases holder with
  | none => exact ⟨worker, isSome_step? notDone (.inl manned.locked)⟩
  | some holder =>
      exact ⟨holder, isSome_step? (manned.ne_done rfl) (.inr (manned.ne_acquire rfl))⟩

end Underway

end Batch

end TaskDispatch
