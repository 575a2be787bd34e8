import TaskDispatch.Proofs.Action.OpenLookups
import TaskDispatch.Proofs.Execution.Prospect

/-!
# Batches

The executions of a batch share an executer, and each is on a worker of its own.  A schedule says
which worker takes the next step; a worker that asks for the lock while another holds it cannot take
one, and a lookup takes two.

Two things stay true of a batch.  It is `Manned`: every worker follows its duty, and the lock is
held by at most one.  And it is `Served`: whoever reads a cell finds the class info of the type it
looks up, which was built once.
-/

namespace TaskDispatch

variable {Body Parameters World Worker : Type}

/-- Executions that share an executer. -/
structure Batch (Body Parameters World Worker : Type) where
  /-- What each worker still does. -/
  rest : Worker → Procedure Body Parameters Completion
  /-- The cell that a worker has obtained and not read. -/
  opened : Worker → Option CellId
  project : Project
  store : Store Body
  world : World
  /-- The records made, each with the worker whose it is. -/
  ledger : List (Worker × CompletedAction)
  /-- The types whose class info was built. -/
  built : List Identity

namespace Batch

/-- A batch before any worker has taken a step. -/
def start
    (executions : Worker → Execution Body Parameters)
    (session : Session Body Parameters World) :
    Batch Body Parameters World Worker where
  rest worker := (executions worker).procedure
  opened _ := none
  project := session.project
  store := session.store
  world := session.world
  ledger := []
  built := []

section Steps

variable [DecidableEq Worker] (batch : Batch Body Parameters World Worker) (worker : Worker)

/-- The records of a worker, in order. -/
def recordsOf : List CompletedAction :=
  (batch.ledger.filter fun record => record.1 = worker).map Prod.snd

/-- The batch after a worker has obtained the cell of a type. -/
def obtain (type : TaskType Body) : Batch Body Parameters World Worker :=
  { batch with
    opened := Function.update batch.opened worker (some (batch.store.obtain type.identity).1)
    store := (batch.store.obtain type.identity).2 }

/-- The batch after a worker has read the cell of a type. -/
def settle
    (type : TaskType Body)
    (cell : CellId)
    (next : ClassInfoResult Body → Procedure Body Parameters Completion) :
    Batch Body Parameters World Worker :=
  { batch with
    rest := Function.update batch.rest worker (next (batch.store.settle cell type).1.result)
    opened := Function.update batch.opened worker none
    store := (batch.store.settle cell type).2
    built := batch.built ++ batch.store.builtBy cell type }

/-- The batch after any other act of a worker. -/
def advance
    (act : Act Body)
    (rest : Procedure Body Parameters Completion)
    (project : Project)
    (world : World) :
    Batch Body Parameters World Worker :=
  { batch with
    rest := Function.update batch.rest worker rest
    project := project
    world := world
    ledger := batch.ledger ++ act.entries.map fun entry => (worker, entry) }

section Fields

variable {batch : Batch Body Parameters World Worker} {worker other : Worker}
variable {type : TaskType Body} {cell : CellId} {act : Act Body}
variable {next : ClassInfoResult Body → Procedure Body Parameters Completion}
variable {rest : Procedure Body Parameters Completion} {project : Project} {world : World}

@[simp]
theorem opened_obtain_self :
    (batch.obtain worker type).opened worker = some (batch.store.obtain type.identity).1 :=
  Function.update_self ..

theorem opened_obtain_other (different : other ≠ worker) :
    (batch.obtain worker type).opened other = batch.opened other :=
  Function.update_of_ne different ..

@[simp]
theorem opened_settle_self : (batch.settle worker type cell next).opened worker = none :=
  Function.update_self ..

theorem opened_settle_other (different : other ≠ worker) :
    (batch.settle worker type cell next).opened other = batch.opened other :=
  Function.update_of_ne different ..

@[simp]
theorem rest_settle_self :
    (batch.settle worker type cell next).rest worker =
      next (batch.store.settle cell type).1.result :=
  Function.update_self ..

theorem rest_settle_other (different : other ≠ worker) :
    (batch.settle worker type cell next).rest other = batch.rest other :=
  Function.update_of_ne different ..

@[simp]
theorem opened_advance :
    (batch.advance worker act rest project world).opened = batch.opened :=
  rfl

@[simp]
theorem rest_advance_self : (batch.advance worker act rest project world).rest worker = rest :=
  Function.update_self ..

theorem rest_advance_other (different : other ≠ worker) :
    (batch.advance worker act rest project world).rest other = batch.rest other :=
  Function.update_of_ne different ..

@[simp]
theorem recordsOf_settle :
    (batch.settle worker type cell next).recordsOf other = batch.recordsOf other :=
  rfl

@[simp]
theorem recordsOf_advance_self :
    (batch.advance worker act rest project world).recordsOf worker =
      batch.recordsOf worker ++ act.entries := by
  simp [recordsOf, advance, List.filter_map, Function.comp_def]

theorem recordsOf_advance_other (different : other ≠ worker) :
    (batch.advance worker act rest project world).recordsOf other = batch.recordsOf other := by
  simp [recordsOf, advance, List.filter_map, Function.comp_def, different.symm]

end Fields

/-- The batch after the next step of a worker, if the worker can take one. -/
def step? (code : UserCode Body Parameters World) : Option (Batch Body Parameters World Worker) :=
  match batch.rest worker, batch.opened worker with
  | .classInfo type _, none => some (batch.obtain worker type)
  | .classInfo type next, some cell => some (batch.settle worker type cell next)
  | procedure, _ =>
      match procedure.reply? code batch.world with
      | none => none
      | some (act, rest, world) =>
          match batch.project.after? act with
          | none => none
          | some project => some (batch.advance worker act rest project world)

end Steps

section Schedules

variable [DecidableEq Worker]

/-- The batch after the steps of a schedule, if each of them can be taken. -/
def play?
    (code : UserCode Body Parameters World)
    (batch : Batch Body Parameters World Worker) :
    List Worker → Option (Batch Body Parameters World Worker)
  | [] => some batch
  | worker :: later =>
      match batch.step? worker code with
      | none => none
      | some after => after.play? code later

/-- The ways of a batch to go on. -/
inductive Steps
    (code : UserCode Body Parameters World)
    (batch : Batch Body Parameters World Worker)
    (worker : Worker) :
    Batch Body Parameters World Worker → Prop where
  | obtain
      {type : TaskType Body}
      {next : ClassInfoResult Body → Procedure Body Parameters Completion}
      (asks : batch.rest worker = .classInfo type next)
      (unopened : batch.opened worker = none) :
      Steps code batch worker (batch.obtain worker type)
  | settle
      {type : TaskType Body}
      {next : ClassInfoResult Body → Procedure Body Parameters Completion}
      {cell : CellId}
      (asks : batch.rest worker = .classInfo type next)
      (opened : batch.opened worker = some cell) :
      Steps code batch worker (batch.settle worker type cell next)
  | advance
      {act : Act Body}
      {rest : Procedure Body Parameters Completion}
      {project : Project}
      {world : World}
      (replied : (batch.rest worker).reply? code batch.world = some (act, rest, world))
      (admitted : batch.project.after? act = some project) :
      Steps code batch worker (batch.advance worker act rest project world)

theorem steps_of_step?
    {code : UserCode Body Parameters World}
    {batch after : Batch Body Parameters World Worker}
    {worker : Worker}
    (stepped : batch.step? worker code = some after) :
    Steps code batch worker after := by
  unfold step? at stepped
  split at stepped
  · rename_i asks unopened
    cases stepped
    exact .obtain asks unopened
  · rename_i asks opened
    cases stepped
    exact .settle asks opened
  · split at stepped
    · cases stepped
    · rename_i replied
      split at stepped
      · cases stepped
      · rename_i admitted
        cases stepped
        exact .advance replied admitted

end Schedules

/-! ## Workers and the lock -/

/-- Workers that follow their duties, at most one of which holds the lock. -/
structure Manned
    (executions : Worker → Execution Body Parameters)
    (rest : Worker → Procedure Body Parameters Completion)
    (project : Project)
    (duties : Worker → Duty Body)
    (holder : Option Worker) :
    Prop where
  follows : ∀ worker, Duty.Follows (executions worker).configured (duties worker) (rest worker)
  looking : ∀ worker, duties worker = .looking → rest worker = (executions worker).procedure
  holds_iff : ∀ worker, (duties worker).Holds ↔ holder = some worker
  locked : project.locked = holder.isSome

namespace Manned

variable {executions : Worker → Execution Body Parameters}
variable {rest : Worker → Procedure Body Parameters Completion} {project after : Project}
variable {duties : Worker → Duty Body} {holder : Option Worker} {worker : Worker}

theorem start
    (executions : Worker → Execution Body Parameters)
    (free : project.locked = false) :
    Manned executions (fun worker => (executions worker).procedure) project
      (fun _ => .looking) none where
  follows worker := (executions worker).follows_procedure
  looking _ _ := rfl
  holds_iff _ := ⟨fun holds => holds.elim, nofun⟩
  locked := free

/-- A worker that looks a type up is at the beginning of its execution. -/
theorem asks
    (manned : Manned executions rest project duties holder)
    {type : TaskType Body}
    {next : ClassInfoResult Body → Procedure Body Parameters Completion}
    (asks : rest worker = .classInfo type next) :
    rest worker = (executions worker).procedure ∧ type = (executions worker).configured.type := by
  have follows := manned.follows worker
  rw [asks] at follows
  rcases follows with ⟨later, moves, -⟩
  have first := manned.looking worker moves.eq_looking_of_found
  exact ⟨first, (Procedure.classInfo.inj (asks.symm.trans first)).1⟩

section Acts

variable [DecidableEq Worker] {act : Act Body} {later : Duty Body} {holder' : Option Worker}
variable {next : Procedure Body Parameters Completion}

/-- What is to be said of the lock after an act. -/
theorem update
    (manned : Manned executions rest project duties holder)
    (moves : Duty.Moves (executions worker).configured (duties worker) act later)
    (onward : Duty.Follows (executions worker).configured later next)
    (holds_iff : later.Holds ↔ holder' = some worker)
    (others : ∀ other, other ≠ worker → (holder = some other ↔ holder' = some other))
    (locked : after.locked = holder'.isSome) :
    Manned executions (Function.update rest worker next) after
      (Function.update duties worker later) holder' := by
  constructor
  case follows => exact Duty.follows_update manned.follows onward
  case looking =>
    intro other
    by_cases same : other = worker
    · rw [same, Function.update_self]
      exact fun looking => absurd looking moves.ne_looking
    · rw [Function.update_of_ne same, Function.update_of_ne same]
      exact manned.looking other
  case holds_iff =>
    intro other
    by_cases same : other = worker
    · rw [same, Function.update_self]
      exact holds_iff
    · rw [Function.update_of_ne same]
      exact (manned.holds_iff other).trans (others other same)
  case locked => exact locked

theorem acquire
    (manned : Manned executions rest project duties holder)
    (moves : Duty.Moves (executions worker).configured (duties worker) .acquired later)
    (onward : Duty.Follows (executions worker).configured later next)
    (free : project.locked = false) :
    Manned executions (Function.update rest worker next) project.acquire
      (Function.update duties worker later) (some worker) := by
  have noneHolds := Duty.not_holds_of_free manned.holds_iff manned.locked free
  refine manned.update moves onward (iff_of_true moves.holds_of_acquired rfl) ?_ rfl
  intro other different
  refine iff_of_false ?_ ?_
  · exact fun held => noneHolds other ((manned.holds_iff other).2 held)
  · exact fun same => different (Option.some.inj same).symm

theorem release
    (manned : Manned executions rest project duties holder)
    (moves : Duty.Moves (executions worker).configured (duties worker) .released later)
    (onward : Duty.Follows (executions worker).configured later next) :
    Manned executions (Function.update rest worker next) project.release
      (Function.update duties worker later) none := by
  rcases moves.holds_of_released with ⟨holds, released⟩
  have held := (manned.holds_iff worker).1 holds
  refine manned.update moves onward (iff_of_false released nofun) ?_ rfl
  intro other different
  refine iff_of_false ?_ nofun
  exact fun same => different (Option.some.inj (same.symm.trans held))

/-- An act of a worker leaves every worker with a duty, and the lock with at most one. -/
theorem step
    (manned : Manned executions rest project duties holder)
    (takes : (rest worker).Takes act next)
    (admitted : project.after? act = some after) :
    ∃ later holder,
      Duty.Moves (executions worker).configured (duties worker) act later ∧
        Manned executions (Function.update rest worker next) after
          (Function.update duties worker later) holder := by
  rcases (manned.follows worker).step takes with ⟨later, moves, onward⟩
  cases act with
  | acquired =>
      simp only [Project.after?] at admitted
      split at admitted
      · cases admitted
      · rename_i free
        rw [Bool.not_eq_true] at free
        cases admitted
        exact ⟨later, _, moves, manned.acquire moves onward free⟩
  | released =>
      cases admitted
      exact ⟨later, _, moves, manned.release moves onward⟩
  | _ =>
      cases admitted
      have holds_iff := (moves.holds_iff nofun nofun).trans (manned.holds_iff worker)
      exact
        ⟨later, _, moves,
          manned.update moves onward holds_iff (fun _ _ => Iff.rfl) manned.locked⟩

end Acts

end Manned

/-! ## Lookups -/

/-- A batch whose store serves the lookups of its workers.  A worker that has obtained a cell has
not gone on, and the cell is the one of its type. -/
structure Served
    (types : Set (TaskType Body))
    (executions : Worker → Execution Body Parameters)
    (start : Store Body)
    (batch : Batch Body Parameters World Worker) :
    Prop where
  recalls : batch.store.Recalls types
  since : Store.BuiltSince start batch.store batch.built
  built_of :
    ∀ identity ∈ batch.built, ∃ worker, identity = (executions worker).configured.type.identity
  opened : ∀ worker cell, batch.opened worker = some cell →
    batch.rest worker = (executions worker).procedure ∧
      batch.store.cell? (executions worker).configured.type.identity = some cell

namespace Served

variable {types : Set (TaskType Body)} {executions : Worker → Execution Body Parameters}
variable {begin : Store Body} {batch : Batch Body Parameters World Worker} {worker : Worker}

theorem start
    {session : Session Body Parameters World}
    (remembers : session.store.Remembers types)
    (executions : Worker → Execution Body Parameters) :
    Served types executions session.store (start executions session) where
  recalls := remembers.recalls
  since := .refl session.store
  built_of := nofun
  opened := nofun

/-- User code does not answer the lookup with which an execution begins. -/
theorem unopened
    (served : Served types executions begin batch)
    {code : UserCode Body Parameters World}
    {reply : Act Body × Procedure Body Parameters Completion × World}
    (replied : (batch.rest worker).reply? code batch.world = some reply) :
    batch.opened worker = none := by
  cases opened : batch.opened worker with
  | none => rfl
  | some cell =>
      rw [(served.opened worker cell opened).1] at replied
      cases replied

variable [DecidableEq Worker] {type : TaskType Body}

theorem obtain
    (served : Served types executions begin batch)
    (first : batch.rest worker = (executions worker).procedure)
    (isType : type = (executions worker).configured.type) :
    Served types executions begin (batch.obtain worker type) where
  recalls := served.recalls.obtain type.identity
  since := served.since.obtain type.identity
  built_of := served.built_of
  opened := by
    intro other cell opened
    by_cases same : other = worker
    · rw [same, opened_obtain_self] at opened
      rw [same, ← isType, ← opened]
      exact ⟨first, (Store.cell?_obtain _ _ _).trans (if_pos rfl)⟩
    · rw [opened_obtain_other same] at opened
      rcases served.opened other cell opened with ⟨notYet, cached⟩
      exact ⟨notYet, Store.cell?_obtain_of_cached cached type.identity⟩

theorem settle
    (served : Served types executions begin batch)
    (distinct : types.InjOn TaskType.identity)
    (member : type ∈ types)
    (isType : type = (executions worker).configured.type)
    {cell : CellId}
    (cached : batch.store.cell? type.identity = some cell)
    (next : ClassInfoResult Body → Procedure Body Parameters Completion) :
    Served types executions begin (batch.settle worker type cell next) where
  recalls := served.recalls.settle distinct member cached
  since := served.since.settle cached
  built_of := by
    intro identity built
    rcases List.mem_append.1 built with earlier | now
    · exact served.built_of identity earlier
    · unfold Store.builtBy at now
      split at now
      · cases now
      · cases List.mem_singleton.1 now
        exact ⟨worker, congrArg TaskType.identity isType⟩
  opened := by
    intro other found opened
    by_cases same : other = worker
    · rw [same, opened_settle_self] at opened
      cases opened
    · rw [opened_settle_other same] at opened
      rw [rest_settle_other same]
      rcases served.opened other found opened with ⟨notYet, cachedOther⟩
      exact ⟨notYet, (Store.cell?_settle _ _ _ _).trans cachedOther⟩

theorem advance
    (served : Served types executions begin batch)
    {code : UserCode Body Parameters World}
    {act : Act Body}
    {rest : Procedure Body Parameters Completion}
    {world : World}
    (replied : (batch.rest worker).reply? code batch.world = some (act, rest, world))
    (project : Project) :
    Served types executions begin (batch.advance worker act rest project world) where
  recalls := served.recalls
  since := served.since
  built_of := served.built_of
  opened := by
    intro other cell opened
    have different : other ≠ worker := by
      intro same
      rw [same, opened_advance, served.unopened replied] at opened
      cases opened
    rw [rest_advance_other different]
    exact served.opened other cell opened

end Served

end Batch

end TaskDispatch
