import TaskDispatch.Proofs.Execution.Accounts

/-!
# The log of interleaved executions

Workers that execute tasks at the same time run their declared actions one at a time, and the log of
the project accounts for all of them: for every worker it lists exactly the actions that have
succeeded, in the order of the class info, and the declared actions of one worker stand together.
Isolated actions run without the lock and may be recorded among the actions of others.

The log is written as a ledger, in which every record has the worker it belongs to.  The invariant
`Accounted` ties the ledger and the trace to the duties of the workers.
-/

namespace TaskDispatch

variable {Body Parameters Worker : Type}

/-- Records, each with the worker it belongs to. -/
abbrev Ledger (Body Worker : Type) := List (Worker × ActionFactory Body)

namespace Ledger

variable [DecidableEq Worker]

/-- The actions recorded for a worker. -/
def recordsOf (worker : Worker) (ledger : Ledger Body Worker) : List (ActionFactory Body) :=
  ledger.filterMap fun record => if record.1 = worker then some record.2 else none

/-- The records of declared actions. -/
def declared (ledger : Ledger Body Worker) : Ledger Body Worker :=
  ledger.filter fun record => record.2.isDeclared

/-- The records of declared actions of a worker. -/
def declaredOf (ledger : Ledger Body Worker) (worker : Worker) : Ledger Body Worker :=
  ledger.filter fun record => record.2.isDeclared && decide (record.1 = worker)

theorem recordsOf_concat_self
    (ledger : Ledger Body Worker)
    (worker : Worker)
    (factory : ActionFactory Body) :
    recordsOf worker (ledger ++ [(worker, factory)]) = recordsOf worker ledger ++ [factory] := by
  simp [recordsOf]

theorem recordsOf_concat_other
    {worker other : Worker}
    (different : other ≠ worker)
    (ledger : Ledger Body Worker)
    (factory : ActionFactory Body) :
    recordsOf worker (ledger ++ [(other, factory)]) = recordsOf worker ledger := by
  simp [recordsOf, different]

theorem declaredOf_eq_nil
    {ledger : Ledger Body Worker}
    {worker : Worker}
    (none : recordsOf worker ledger = []) :
    declaredOf ledger worker = [] := by
  unfold declaredOf
  rw [List.filter_eq_nil_iff]
  intro record member both
  rw [Bool.and_eq_true, decide_eq_true_iff] at both
  have recorded : record.2 ∈ recordsOf worker ledger := by
    unfold recordsOf
    rw [List.mem_filterMap]
    exact ⟨record, member, if_pos both.2⟩
  rw [none] at recorded
  cases recorded

theorem declaredOf_concat_other
    {worker other : Worker}
    (different : other ≠ worker)
    (ledger : Ledger Body Worker)
    (factory : ActionFactory Body) :
    declaredOf (ledger ++ [(other, factory)]) worker = declaredOf ledger worker := by
  simp [declaredOf, different]

/-- A record of an isolated action is in no block. -/
theorem flatMap_declaredOf_concat_isolated
    {factory : ActionFactory Body}
    (isolated : factory.isDeclared = false)
    (ledger : Ledger Body Worker)
    (worker : Worker)
    (workers : List Worker) :
    workers.flatMap (declaredOf (ledger ++ [(worker, factory)])) =
      workers.flatMap (declaredOf ledger) := by
  apply List.flatMap_congr
  intro other _
  simp [declaredOf, isolated]

/-- A record of a declared action lengthens the block of its worker. -/
theorem flatMap_declaredOf_concat_last
    {factory : ActionFactory Body}
    (isDeclared : factory.isDeclared = true)
    (ledger : Ledger Body Worker)
    {worker : Worker}
    {workers : List Worker}
    (last : worker ∉ workers) :
    (workers ++ [worker]).flatMap (declaredOf (ledger ++ [(worker, factory)])) =
      (workers ++ [worker]).flatMap (declaredOf ledger) ++ [(worker, factory)] := by
  have others : workers.flatMap (declaredOf (ledger ++ [(worker, factory)])) =
      workers.flatMap (declaredOf ledger) := by
    apply List.flatMap_congr
    intro other member
    apply declaredOf_concat_other
    intro same
    rw [same] at last
    exact last member
  rw [List.flatMap_append, List.flatMap_append, others]
  simp [declaredOf, isDeclared]

end Ledger

namespace Scene

variable [DecidableEq Worker]

/-- The duties of the workers, the holder of the lock and the ledger fit a scene. -/
structure Accounted
    (executions : Worker → Execution Body Parameters)
    (scene : Scene Body Parameters Worker)
    (duties : Worker → Duty Body)
    (holder : Option Worker)
    (ledger : Ledger Body Worker) :
    Prop where
  follows : ∀ worker,
    Duty.Follows (executions worker).configured (duties worker) (scene.rest worker)
  holds_iff : ∀ worker, (duties worker).Holds ↔ holder = some worker
  locked : scene.project.locked = holder.isSome
  entries : scene.project.completed = ledger.map fun record => (executions record.1).entry record.2
  recorders : ledger.map Prod.fst = Trace.recorders scene.trace
  accounts : ∀ worker,
    (duties worker).Accounts (executions worker).factories (ledger.recordsOf worker)
      (Trace.achieved worker scene.trace)
  entered_iff : ∀ worker, (duties worker).Entered ↔ worker ∈ Trace.holders scene.trace
  last : ∀ worker, (duties worker).FirstHold →
    ∃ before, Trace.holders scene.trace = before ++ [worker]
  blocks : ledger.declared = (Trace.holders scene.trace).flatMap ledger.declaredOf

namespace Accounted

variable {executions : Worker → Execution Body Parameters} {scene : Scene Body Parameters Worker}
variable {duties : Worker → Duty Body} {holder : Option Worker} {ledger : Ledger Body Worker}
variable {worker : Worker} {act : Act Body} {after : Duty Body}
variable {rest : Procedure Body Parameters Completion} {project : Project}

theorem start (executions : Worker → Execution Body Parameters) :
    Accounted executions (Scene.start executions) (fun _ => .looking) none [] := by
  constructor
  · intro worker
    exact (executions worker).follows_procedure
  · intro worker
    constructor
    · exact fun holds => holds.elim
    · exact fun held => by cases held
  · rfl
  · rfl
  · rfl
  · intro worker
    exact Duty.Accounts.start (executions worker)
  · intro worker
    constructor
    · exact fun entered => entered.elim
    · exact fun member => by cases member
  · exact fun worker first => first.elim
  · rfl

theorem follows_advance
    (accounted : Accounted executions scene duties holder ledger)
    (continued : Duty.Follows (executions worker).configured after rest) :
    ∀ other, Duty.Follows (executions other).configured (Function.update duties worker after other)
      ((scene.advance worker act rest project).rest other) := by
  intro other
  by_cases same : other = worker
  · rw [same]
    simpa [advance] using continued
  · simpa [advance, same] using accounted.follows other

theorem accounts_advance
    (accounted : Accounted executions scene duties holder ledger)
    (moves : Duty.Moves (executions worker).configured (duties worker) act after)
    (notRecorded : ∀ entry, act ≠ .recorded entry) :
    ∀ other, (Function.update duties worker after other).Accounts (executions other).factories
      (ledger.recordsOf other) (Trace.achieved other (scene.trace ++ [(worker, act)])) := by
  intro other
  by_cases same : other = worker
  · rw [same, Function.update_self, Trace.achieved_concat_self]
    exact (accounted.accounts worker).move moves notRecorded
  · rw [Function.update_of_ne same, Trace.achieved_concat_other (Ne.symm same)]
    exact accounted.accounts other

theorem not_holds_of_free
    (accounted : Accounted executions scene duties holder ledger)
    (free : scene.project.locked = false) :
    ∀ other, ¬ (duties other).Holds := by
  intro other holds
  have locked := accounted.locked
  rw [(accounted.holds_iff other).mp holds, free] at locked
  cases locked

/-- A worker that has not held the lock opens an empty block. -/
theorem blocks_acquire
    (accounted : Accounted executions scene duties holder ledger)
    (worker : Worker) :
    ledger.declared =
      (Trace.holders (scene.trace ++ [(worker, .acquired)])).flatMap ledger.declaredOf := by
  by_cases known : worker ∈ Trace.holders scene.trace
  · rw [Trace.holders_concat_again known]
    exact accounted.blocks
  · have notEntered : ¬ (duties worker).Entered :=
      fun entered => known ((accounted.entered_iff worker).mp entered)
    have empty : ledger.declaredOf worker = [] :=
      Ledger.declaredOf_eq_nil ((accounted.accounts worker).unrecorded notEntered)
    rw [Trace.holders_concat_first known, List.flatMap_append, ← accounted.blocks]
    simp [empty]

theorem acquire
    (accounted : Accounted executions scene duties holder ledger)
    (moves : Duty.Moves (executions worker).configured (duties worker) .acquired after)
    (continued : Duty.Follows (executions worker).configured after rest)
    (free : scene.project.locked = false) :
    Accounted executions (scene.advance worker .acquired rest scene.project.acquire)
      (Function.update duties worker after) (some worker) ledger := by
  have noneHolds := accounted.not_holds_of_free free
  have notRecorded : ∀ entry, (.acquired : Act Body) ≠ .recorded entry := nofun
  constructor
  · exact accounted.follows_advance continued
  · intro other
    by_cases same : other = worker
    · simp [same, moves.holds_of_acquired]
    · simp [same, noneHolds other, Ne.symm same]
  · rfl
  · exact accounted.entries
  · rw [accounted.recorders]
    exact (Trace.recorders_concat_other notRecorded scene.trace worker).symm
  · exact accounted.accounts_advance moves notRecorded
  · intro other
    show _ ↔ other ∈ Trace.holders (scene.trace ++ [(worker, .acquired)])
    by_cases same : other = worker
    · rw [same, Function.update_self]
      by_cases known : worker ∈ Trace.holders scene.trace
      · simp [Trace.holders_concat_again known, known, moves.entered_of_acquired]
      · simp [Trace.holders_concat_first known, moves.entered_of_acquired]
    · rw [Function.update_of_ne same, accounted.entered_iff other]
      by_cases known : worker ∈ Trace.holders scene.trace
      · rw [Trace.holders_concat_again known]
      · simp [Trace.holders_concat_first known, same]
  · intro other first
    show ∃ before, Trace.holders (scene.trace ++ [(worker, .acquired)]) = before ++ [other]
    by_cases same : other = worker
    · rw [same, Function.update_self] at first
      have known : worker ∉ Trace.holders scene.trace := by
        rw [← accounted.entered_iff worker]
        exact moves.not_entered_of_firstHold first
      rw [same, Trace.holders_concat_first known]
      exact ⟨_, rfl⟩
    · rw [Function.update_of_ne same] at first
      exact absurd first.holds (noneHolds other)
  · exact accounted.blocks_acquire worker

theorem entered_iff_advance
    (accounted : Accounted executions scene duties holder ledger)
    (moves : Duty.Moves (executions worker).configured (duties worker) act after)
    (notAcquired : act ≠ .acquired) :
    ∀ other, (Function.update duties worker after other).Entered ↔
      other ∈ Trace.holders (scene.trace ++ [(worker, act)]) := by
  intro other
  rw [Trace.holders_concat_other notAcquired, ← accounted.entered_iff other]
  by_cases same : other = worker
  · rw [same, Function.update_self]
    exact moves.entered_iff notAcquired
  · rw [Function.update_of_ne same]

theorem last_advance
    (accounted : Accounted executions scene duties holder ledger)
    (moves : Duty.Moves (executions worker).configured (duties worker) act after)
    (notAcquired : act ≠ .acquired) :
    ∀ other, (Function.update duties worker after other).FirstHold →
      ∃ before, Trace.holders (scene.trace ++ [(worker, act)]) = before ++ [other] := by
  intro other first
  rw [Trace.holders_concat_other notAcquired]
  apply accounted.last other
  by_cases same : other = worker
  · rw [same, Function.update_self] at first
    rw [same]
    exact moves.firstHold notAcquired first
  · rw [Function.update_of_ne same] at first
    exact first

theorem release
    (accounted : Accounted executions scene duties holder ledger)
    (moves : Duty.Moves (executions worker).configured (duties worker) .released after)
    (continued : Duty.Follows (executions worker).configured after rest) :
    Accounted executions (scene.advance worker .released rest scene.project.release)
      (Function.update duties worker after) none ledger := by
  rcases moves.holds_of_released with ⟨held, released⟩
  have holder := (accounted.holds_iff worker).mp held
  have notAcquired : (.released : Act Body) ≠ .acquired := nofun
  have notRecorded : ∀ entry, (.released : Act Body) ≠ .recorded entry := nofun
  constructor
  · exact accounted.follows_advance continued
  · intro other
    by_cases same : other = worker
    · simp [same, released]
    · have notHolding : ¬ (duties other).Holds := by
        intro holds
        have both := (accounted.holds_iff other).mp holds
        rw [holder, Option.some_inj] at both
        exact same both.symm
      simp [same, notHolding]
  · rfl
  · exact accounted.entries
  · rw [accounted.recorders]
    exact (Trace.recorders_concat_other notRecorded scene.trace worker).symm
  · exact accounted.accounts_advance moves notRecorded
  · exact accounted.entered_iff_advance moves notAcquired
  · exact accounted.last_advance moves notAcquired
  · show _ = (Trace.holders (scene.trace ++ _)).flatMap _
    rw [Trace.holders_concat_other notAcquired]
    exact accounted.blocks

theorem holds_iff_advance
    (accounted : Accounted executions scene duties holder ledger)
    (moves : Duty.Moves (executions worker).configured (duties worker) act after)
    (notAcquired : act ≠ .acquired)
    (notReleased : act ≠ .released) :
    ∀ other, (Function.update duties worker after other).Holds ↔ holder = some other := by
  intro other
  rw [← accounted.holds_iff other]
  by_cases same : other = worker
  · rw [same, Function.update_self]
    exact moves.holds_iff notAcquired notReleased
  · rw [Function.update_of_ne same]

theorem record
    {entry : CompletedAction}
    (accounted : Accounted executions scene duties holder ledger)
    (moves : Duty.Moves (executions worker).configured (duties worker) (.recorded entry) after)
    (continued : Duty.Follows (executions worker).configured after rest) :
    ∃ factory,
      Accounted executions
        (scene.advance worker (.recorded entry) rest
          (scene.project.record entry.task entry.action))
        (Function.update duties worker after) holder (ledger ++ [(worker, factory)]) := by
  rcases moves.record_cases with ⟨factory, left, owing, rfl, settled⟩
  have notAcquired {entry : CompletedAction} : (.recorded entry : Act Body) ≠ .acquired := nofun
  have notReleased {entry : CompletedAction} : (.recorded entry : Act Body) ≠ .released := nofun
  refine ⟨factory, ?_⟩
  constructor
  · exact accounted.follows_advance continued
  · exact accounted.holds_iff_advance moves notAcquired notReleased
  · exact accounted.locked
  · show scene.project.completed ++ [_] = _
    rw [accounted.entries, List.map_append]
    rfl
  · show _ = Trace.recorders (scene.trace ++ [(worker, .recorded _)])
    rw [Trace.recorders_concat_recorded, ← accounted.recorders, List.map_append]
    rfl
  · intro other
    show (Function.update duties worker after other).Accounts _ _
      (Trace.achieved other (scene.trace ++ [(worker, .recorded _)]))
    by_cases same : other = worker
    · have accounts := accounted.accounts worker
      rw [owing] at accounts
      rw [same, Function.update_self, Trace.achieved_concat_self, Ledger.recordsOf_concat_self]
      exact accounts.record settled
    · rw [Function.update_of_ne same, Trace.achieved_concat_other (Ne.symm same),
        Ledger.recordsOf_concat_other (Ne.symm same)]
      exact accounted.accounts other
  · exact accounted.entered_iff_advance moves notAcquired
  · exact accounted.last_advance moves notAcquired
  · show _ = (Trace.holders (scene.trace ++ _)).flatMap _
    rw [Trace.holders_concat_other notAcquired]
    cases isDeclared : factory.isDeclared with
    | false =>
        rw [Ledger.flatMap_declaredOf_concat_isolated isDeclared, ← accounted.blocks]
        simp [Ledger.declared, isDeclared]
    | true =>
        -- Declared actions are recorded in the first hold of the lock, and whoever is in it was the
        -- last to take the lock for the first time: the record goes to the end of the last block.
        have first : (duties worker).FirstHold := by
          rw [owing]
          exact isDeclared
        rcases accounted.last worker first with ⟨before, holders⟩
        have distinct := Trace.nodup_holders scene.trace
        rw [holders, ← List.concat_eq_append, List.nodup_concat] at distinct
        have blocks := accounted.blocks
        rw [holders] at blocks ⊢
        rw [Ledger.flatMap_declaredOf_concat_last isDeclared ledger distinct.1, ← blocks]
        simp [Ledger.declared, isDeclared]

/-- A worker does something that the project does not notice. -/
theorem pass
    (accounted : Accounted executions scene duties holder ledger)
    (moves : Duty.Moves (executions worker).configured (duties worker) act after)
    (continued : Duty.Follows (executions worker).configured after rest)
    (notAcquired : act ≠ .acquired)
    (notReleased : act ≠ .released)
    (notRecorded : ∀ entry, act ≠ .recorded entry) :
    Accounted executions (scene.advance worker act rest scene.project)
      (Function.update duties worker after) holder ledger := by
  constructor
  · exact accounted.follows_advance continued
  · exact accounted.holds_iff_advance moves notAcquired notReleased
  · exact accounted.locked
  · exact accounted.entries
  · rw [accounted.recorders]
    exact (Trace.recorders_concat_other notRecorded scene.trace worker).symm
  · exact accounted.accounts_advance moves notRecorded
  · exact accounted.entered_iff_advance moves notAcquired
  · exact accounted.last_advance moves notAcquired
  · show _ = (Trace.holders (scene.trace ++ _)).flatMap _
    rw [Trace.holders_concat_other notAcquired]
    exact accounted.blocks

/-- Every step that the lock admits keeps the books. -/
theorem step
    (accounted : Accounted executions scene duties holder ledger)
    (takes : (scene.rest worker).Takes act rest)
    (admitted : scene.project.after? act = some project) :
    ∃ duties holder ledger,
      Accounted executions (scene.advance worker act rest project) duties holder ledger := by
  rcases (accounted.follows worker).step takes with ⟨after, moves, continued⟩
  cases act with
  | acquired =>
      simp only [Project.after?] at admitted
      split at admitted
      · cases admitted
      · rename_i free
        rw [Bool.not_eq_true] at free
        cases admitted
        exact ⟨_, _, _, accounted.acquire moves continued free⟩
  | released =>
      cases admitted
      exact ⟨_, _, _, accounted.release moves continued⟩
  | recorded entry =>
      cases admitted
      rcases accounted.record moves continued with ⟨factory, recorded⟩
      exact ⟨_, _, _, recorded⟩
  | _ =>
      cases admitted
      exact ⟨_, _, _, accounted.pass moves continued nofun nofun nofun⟩

end Accounted

/-- The books are kept in every scene that executions can come to. -/
theorem Reachable.accounted
    {executions : Worker → Execution Body Parameters}
    {scene : Scene Body Parameters Worker}
    (reachable : Reachable executions scene) :
    ∃ duties holder ledger, Accounted executions scene duties holder ledger := by
  induction reachable with
  | start => exact ⟨_, _, _, Accounted.start executions⟩
  | step reached takes admitted ih =>
      rcases ih with ⟨duties, holder, ledger, accounted⟩
      exact accounted.step takes admitted

/-- True if a worker is inside the body of a declared method. -/
def InsideBody (scene : Scene Body Parameters Worker) (worker : Worker) : Prop :=
  ∃ method target inputs next, scene.rest worker = .invoke method target inputs next

/-- The log of interleaved executions.  At most one worker is inside a declared body.  The log lists
for every worker the actions that have succeeded, in the order of its class info, except that one
which has just succeeded may be what the worker records next.  Without the records of isolated
actions, the log is what the workers have recorded one after the other, in the order in which they
first took the lock. -/
theorem completed_log
    {executions : Worker → Execution Body Parameters}
    {scene : Scene Body Parameters Worker}
    (reachable : Reachable executions scene) :
    (∀ worker other, scene.InsideBody worker → scene.InsideBody other → worker = other) ∧
    ∃ ledger : Ledger Body Worker,
      scene.project.completed =
        ledger.map (fun record => (executions record.1).entry record.2) ∧
      ledger.map Prod.fst = Trace.recorders scene.trace ∧
      (∀ worker, ∃ count ≤ (executions worker).factories.length,
        (Trace.achieved worker scene.trace).succeeded =
          ((executions worker).factories.take count).map ActionFactory.method? ∧
        (ledger.recordsOf worker = (executions worker).factories.take count ∨
          ∃ factory next,
            ledger.recordsOf worker ++ [factory] = (executions worker).factories.take count ∧
            scene.rest worker =
              .record (executions worker).configured.path factory.displayName next)) ∧
      (Trace.holders scene.trace).Nodup ∧
      ledger.declared = (Trace.holders scene.trace).flatMap ledger.declaredOf := by
  rcases reachable.accounted with ⟨duties, holder, ledger, accounted⟩
  have holds (worker : Worker) (inside : scene.InsideBody worker) : holder = some worker := by
    rcases inside with ⟨method, target, inputs, next, invoking⟩
    have follows := accounted.follows worker
    rw [invoking] at follows
    exact (accounted.holds_iff worker).mp follows.holds_of_invoke
  constructor
  · intro worker other inside otherInside
    have held := holds worker inside
    rw [holds other otherInside, Option.some_inj] at held
    exact held.symm
  · refine ⟨ledger, accounted.entries, accounted.recorders, ?_, Trace.nodup_holders _,
      accounted.blocks⟩
    intro worker
    rcases accounted.accounts worker with ⟨inOrder, succeeded, -, -⟩
    have initial := (List.prefix_append _ _).trans inOrder
    have taken := List.prefix_iff_eq_take.mp initial
    refine ⟨_, initial.length_le, ?_, ?_⟩
    · rw [← taken]
      exact succeeded
    · rw [← taken]
      cases duty : duties worker with
      | owing factory left =>
          have follows := accounted.follows worker
          rw [duty] at follows
          rcases follows.record_of_owing with ⟨next, recording⟩
          exact .inr ⟨factory, next, rfl, recording⟩
      | _ => exact .inl (List.append_nil _).symm

/-- A type with a standard method and an isolated action, or without the latter. -/
def compiling (isolatable : Bool) : TaskType Unit :=
  { own := ⟨⟨if isolatable then 1 else 2⟩, "Compile", false, isolatable, [.standard "run" ()]⟩
    ancestors := [] }

/-- Two tasks, one of which has an isolated action. -/
def twoTasks : Bool → Execution Unit Unit
  | false =>
      { settings := .default
        configured := ⟨⟨⟨10⟩, ":first"⟩, compiling true, some ⟨0, "Stamp", fun _ => .decoded ()⟩⟩
        inputs := none }
  | true =>
      { settings := .default
        configured := ⟨⟨⟨11⟩, ":second"⟩, compiling false, none⟩
        inputs := none }

/-- The second task is executed while the isolated action of the first one runs. -/
def overtaking : List (Bool × Outcome) :=
  List.replicate 10 (false, .succeeded) ++ List.replicate 7 (true, .succeeded) ++
    List.replicate 3 (false, .succeeded)

theorem play_overtaking :
    ((Scene.start twoTasks).play overtaking).map
        (fun scene => (scene.project.completed, Trace.holders scene.trace)) =
      some
        ( [ ⟨":first", "Compile.run()"⟩, ⟨":second", "Compile.run()"⟩,
            ⟨":first", "Compile (isolated)"⟩ ],
          [false, true] ) := by
  rfl

/-- The record of an isolated action may stand apart from those of its worker. -/
theorem overtaking_log :
    ∃ scene,
      Reachable twoTasks scene ∧
      scene.project.completed =
        [ ⟨":first", "Compile.run()"⟩, ⟨":second", "Compile.run()"⟩,
          ⟨":first", "Compile (isolated)"⟩ ] ∧
      ∃ ledger : Ledger Unit Bool,
        scene.project.completed =
          ledger.map (fun record => (twoTasks record.1).entry record.2) ∧
        ledger.declared = [false, true].flatMap ledger.declaredOf := by
  rcases Option.map_eq_some_iff.mp play_overtaking with ⟨scene, played, outcome⟩
  rcases Prod.mk.inj outcome with ⟨log, holders⟩
  have reachable : Reachable twoTasks scene := Reachable.start.play played
  rcases completed_log reachable with ⟨-, ledger, entries, -, -, -, blocks⟩
  rw [holders] at blocks
  exact ⟨scene, reachable, log, ledger, entries, blocks⟩

end Scene

end TaskDispatch
