import TaskDispatch.Proofs.Action.BetweenRemovals
import TaskDispatch.Proofs.Execution.Prospect

/-!
# Traffic on an executer

Callers execute tasks, one execution each, and at the same time visitors look types up in the store
of the executer, evict and clear.  A schedule says what happens next.  An execution cannot take a
step while it asks for a lock that another holds, and a visitor does one thing after the other; a
lookup takes two steps, and anything may happen between them.

User code is not asked to be steady here: what it does may depend on what was done before it.

Traffic is `Orderly`: its store has been used as threads use it, and every caller that has a lookup
open is at the beginning of its execution.
-/

namespace TaskDispatch

variable {Body Parameters World Caller Visitor Thread : Type}

/-! ## Visitors -/

/-- What a visitor does to a store. -/
inductive StoreErrand (Body : Type) where
  /-- The first step of a lookup. -/
  | begin (type : TaskType Body)
  /-- The second step of the lookup that was begun. -/
  | finish
  | evict (identity : Identity)
  | clear

/-- True if an errand looks up only types of a set. -/
def StoreErrand.LooksUpIn (types : Set (TaskType Body)) : StoreErrand Body → Prop
  | .begin type => type ∈ types
  | _ => True

namespace SharedStore

variable [DecidableEq Thread]

/-- The store after an errand of a thread, if the thread can do it. -/
def run?
    (shared : SharedStore Body Thread)
    (thread : Thread)
    (errand : StoreErrand Body) :
    Option (SharedStore Body Thread) :=
  match shared.pending thread, errand with
  | none, .begin type => some (shared.obtain thread type)
  | some (type, cell), .finish => some (shared.settle thread type cell)
  | none, .evict identity => some (shared.evict thread identity)
  | none, .clear => some (shared.clear thread)
  | _, _ => none

theorem steps_of_run?
    {types : Set (TaskType Body)}
    {shared after : SharedStore Body Thread}
    {thread : Thread}
    {errand : StoreErrand Body}
    (known : errand.LooksUpIn types)
    (ran : shared.run? thread errand = some after) :
    Steps types shared after := by
  unfold run? at ran
  split at ran
  · rename_i idle
    cases ran
    exact .obtain idle known
  · rename_i pending
    cases ran
    exact .settle pending
  · rename_i idle
    cases ran
    exact .evict idle _
  · rename_i idle
    cases ran
    exact .clear idle
  · cases ran

theorem pending_of_run?
    {shared after : SharedStore Body Thread}
    {thread other : Thread}
    {errand : StoreErrand Body}
    (ran : shared.run? thread errand = some after)
    (different : other ≠ thread) :
    after.pending other = shared.pending other := by
  unfold run? at ran
  split at ran <;> cases ran <;> exact pending_advance_other shared thread different ..

end SharedStore

/-! ## Schedules -/

/-- What happens next. -/
inductive Move (Body Caller Visitor : Type) where
  /-- The next step of the execution of a caller. -/
  | step (caller : Caller)
  | visit (visitor : Visitor) (errand : StoreErrand Body)

namespace Move

/-- True if a move looks up only types of a set, apart from what callers look up. -/
def LooksUpIn (types : Set (TaskType Body)) : Move Body Caller Visitor → Prop
  | .step _ => True
  | .visit _ errand => errand.LooksUpIn types

/-- True of the steps of a caller. -/
def isStepOf [DecidableEq Caller] (caller : Caller) : Move Body Caller Visitor → Bool
  | .step other => other = caller
  | .visit _ _ => false

/-- True of all moves but the steps of callers that are left out. -/
def isKept (kept : Caller → Bool) : Move Body Caller Visitor → Bool
  | .step caller => kept caller
  | .visit _ _ => true

end Move

/-- Callers and visitors that share an executer. -/
structure Traffic (Body Parameters World Caller Visitor : Type) where
  /-- What each caller still does. -/
  rest : Caller → Procedure Body Parameters Completion
  shared : SharedStore Body (Caller ⊕ Visitor)
  project : Project
  world : World
  /-- What callers have done, apart from their lookups. -/
  acts : List (Caller × Act Body)

namespace Traffic

/-- Traffic before anything has happened, on a store without cells. -/
def start
    [DecidableEq Caller]
    [DecidableEq Visitor]
    (executions : Caller → Execution Body Parameters)
    (project : Project)
    (world : World) :
    Traffic Body Parameters World Caller Visitor where
  rest caller := (executions caller).procedure
  shared := .start
  project := project
  world := world
  acts := []

variable [DecidableEq Caller] [DecidableEq Visitor]

section Steps

variable (traffic : Traffic Body Parameters World Caller Visitor)

/-- Traffic after a caller has obtained the cell of a type. -/
def obtain
    (caller : Caller)
    (type : TaskType Body) :
    Traffic Body Parameters World Caller Visitor :=
  { traffic with shared := traffic.shared.obtain (.inl caller) type }

/-- Traffic after a caller has read the cell of a type. -/
def settle
    (caller : Caller)
    (type : TaskType Body)
    (cell : CellId)
    (next : ClassInfoResult Body → Procedure Body Parameters Completion) :
    Traffic Body Parameters World Caller Visitor :=
  { traffic with
    rest :=
      Function.update traffic.rest caller (next (traffic.shared.store.settle cell type).1.result)
    shared := traffic.shared.settle (.inl caller) type cell }

/-- Traffic after any other act of a caller. -/
def advance
    (caller : Caller)
    (act : Act Body)
    (rest : Procedure Body Parameters Completion)
    (project : Project)
    (world : World) :
    Traffic Body Parameters World Caller Visitor :=
  { traffic with
    rest := Function.update traffic.rest caller rest
    project := project
    world := world
    acts := traffic.acts ++ [(caller, act)] }

/-- Traffic after the next step of a caller, if the caller can take one. -/
def step?
    (code : UserCode Body Parameters World)
    (caller : Caller) :
    Option (Traffic Body Parameters World Caller Visitor) :=
  match traffic.rest caller, traffic.shared.pending (.inl caller) with
  | .classInfo type _, none => some (traffic.obtain caller type)
  | .classInfo _ next, some (type, cell) => some (traffic.settle caller type cell next)
  | procedure, _ =>
      match procedure.reply? code traffic.world with
      | none => none
      | some (act, rest, world) =>
          match traffic.project.after? act with
          | none => none
          | some project => some (traffic.advance caller act rest project world)

/-- Traffic after a move, if it can be made. -/
def move?
    (code : UserCode Body Parameters World) :
    Move Body Caller Visitor → Option (Traffic Body Parameters World Caller Visitor)
  | .step caller => traffic.step? code caller
  | .visit visitor errand =>
      (traffic.shared.run? (.inr visitor) errand).map fun shared =>
        { traffic with shared := shared }

/-- Traffic after the moves of a schedule, if each of them can be made. -/
def play?
    (code : UserCode Body Parameters World)
    (schedule : List (Move Body Caller Visitor)) :
    Option (Traffic Body Parameters World Caller Visitor) :=
  schedule.foldlM (fun traffic move => traffic.move? code move) traffic

end Steps

section Fields

variable {traffic : Traffic Body Parameters World Caller Visitor} {caller other : Caller}
variable {thread : Caller ⊕ Visitor} {type : TaskType Body} {cell : CellId} {act : Act Body}
variable {next : ClassInfoResult Body → Procedure Body Parameters Completion}
variable {rest : Procedure Body Parameters Completion} {project : Project} {world : World}

@[simp]
theorem pending_obtain_self :
    (traffic.obtain caller type).shared.pending (.inl caller) =
      some (type, (traffic.shared.store.obtain type.identity).1) :=
  Function.update_self ..

theorem pending_obtain_other (different : thread ≠ .inl caller) :
    (traffic.obtain caller type).shared.pending thread = traffic.shared.pending thread :=
  Function.update_of_ne different ..

@[simp]
theorem pending_settle_self :
    (traffic.settle caller type cell next).shared.pending (.inl caller) = none :=
  Function.update_self ..

theorem pending_settle_other (different : thread ≠ .inl caller) :
    (traffic.settle caller type cell next).shared.pending thread = traffic.shared.pending thread :=
  Function.update_of_ne different ..

@[simp]
theorem rest_settle_self :
    (traffic.settle caller type cell next).rest caller =
      next (traffic.shared.store.settle cell type).1.result :=
  Function.update_self ..

theorem rest_settle_other (different : other ≠ caller) :
    (traffic.settle caller type cell next).rest other = traffic.rest other :=
  Function.update_of_ne different ..

omit [DecidableEq Visitor] in
@[simp]
theorem rest_advance_self : (traffic.advance caller act rest project world).rest caller = rest :=
  Function.update_self ..

omit [DecidableEq Visitor] in
theorem rest_advance_other (different : other ≠ caller) :
    (traffic.advance caller act rest project world).rest other = traffic.rest other :=
  Function.update_of_ne different ..

end Fields

variable {code : UserCode Body Parameters World}
variable {traffic between after : Traffic Body Parameters World Caller Visitor}
variable {schedule : List (Move Body Caller Visitor)} {move : Move Body Caller Visitor}

/-- The ways of traffic to go on. -/
inductive Moves
    (code : UserCode Body Parameters World)
    (traffic : Traffic Body Parameters World Caller Visitor) :
    Move Body Caller Visitor → Traffic Body Parameters World Caller Visitor → Prop where
  | obtain
      {caller : Caller}
      {type : TaskType Body}
      {next : ClassInfoResult Body → Procedure Body Parameters Completion}
      (asks : traffic.rest caller = .classInfo type next)
      (idle : traffic.shared.pending (.inl caller) = none) :
      Moves code traffic (.step caller) (traffic.obtain caller type)
  | settle
      {caller : Caller}
      {type other : TaskType Body}
      {next : ClassInfoResult Body → Procedure Body Parameters Completion}
      {cell : CellId}
      (asks : traffic.rest caller = .classInfo other next)
      (pending : traffic.shared.pending (.inl caller) = some (type, cell)) :
      Moves code traffic (.step caller) (traffic.settle caller type cell next)
  | advance
      {caller : Caller}
      {act : Act Body}
      {rest : Procedure Body Parameters Completion}
      {project : Project}
      {world : World}
      (replied : (traffic.rest caller).reply? code traffic.world = some (act, rest, world))
      (admitted : traffic.project.after? act = some project) :
      Moves code traffic (.step caller) (traffic.advance caller act rest project world)
  | visit
      {visitor : Visitor}
      {errand : StoreErrand Body}
      {shared : SharedStore Body (Caller ⊕ Visitor)}
      (ran : traffic.shared.run? (.inr visitor) errand = some shared) :
      Moves code traffic (.visit visitor errand) { traffic with shared := shared }

theorem moves_of_move? (moved : traffic.move? code move = some after) :
    Moves code traffic move after := by
  cases move with
  | step caller =>
      rw [move?, step?] at moved
      split at moved
      · rename_i asks idle
        cases moved
        exact .obtain asks idle
      · rename_i asks pending
        cases moved
        exact .settle asks pending
      · split at moved
        · cases moved
        · rename_i replied
          split at moved
          · cases moved
          · rename_i admitted
            cases moved
            exact .advance replied admitted
  | visit visitor errand =>
      rcases Option.map_eq_some_iff.1 moved with ⟨shared, ran, rfl⟩
      exact .visit ran

theorem Moves.move?_eq (moves : Moves code traffic move after) :
    traffic.move? code move = some after := by
  cases moves with
  | obtain asks idle => simp only [move?, step?, asks, idle]
  | settle asks pending => simp only [move?, step?, asks, pending]
  | advance replied admitted =>
      rename_i caller act rest project world
      cases asks : traffic.rest caller with
      | classInfo type next =>
          rw [asks] at replied
          cases replied
      | _ =>
          rw [asks] at replied
          simp only [move?, step?, asks, replied, admitted]
  | visit ran => simp only [move?, ran, Option.map_some]

theorem play?_append (earlier later : List (Move Body Caller Visitor)) :
    traffic.play? code (earlier ++ later) =
      (traffic.play? code earlier).bind fun between => between.play? code later := by
  rw [play?, List.foldlM_append]
  rfl

theorem play?_singleton : traffic.play? code [move] = traffic.move? code move := by
  simp [play?]

theorem play?_concat (taken : List (Move Body Caller Visitor)) :
    traffic.play? code (taken ++ [move]) =
      (traffic.play? code taken).bind fun between => between.move? code move := by
  simp only [play?_append, play?_singleton]

/-! ## Order -/

/-- Traffic whose store has been used as threads use it, and in which every execution follows its
duty.  A caller that has a lookup open has done nothing else yet. -/
structure Orderly
    (types : Set (TaskType Body))
    (executions : Caller → Execution Body Parameters)
    (traffic : Traffic Body Parameters World Caller Visitor) :
    Prop where
  reached : SharedStore.Reachable types traffic.shared
  follows :
    ∀ caller, ∃ duty,
      Duty.Follows (executions caller).configured duty (traffic.rest caller) ∧
        (duty = .looking → traffic.rest caller = (executions caller).procedure)
  opened :
    ∀ {caller type cell},
      traffic.shared.pending (.inl caller) = some (type, cell) →
        traffic.rest caller = (executions caller).procedure ∧
          type = (executions caller).configured.type

namespace Orderly

variable {types : Set (TaskType Body)} {executions : Caller → Execution Body Parameters}
variable {caller : Caller} {type : TaskType Body} {cell : CellId}
variable {next : ClassInfoResult Body → Procedure Body Parameters Completion}

theorem start
    (types : Set (TaskType Body))
    (executions : Caller → Execution Body Parameters)
    (project : Project)
    (world : World) :
    Orderly types executions
      (start executions project world : Traffic Body Parameters World Caller Visitor) where
  reached := .start
  follows caller := ⟨.looking, (executions caller).follows_procedure, fun _ => rfl⟩
  opened := nofun

/-- A caller that looks a type up is at the beginning of its execution. -/
theorem asks
    (orderly : Orderly types executions traffic)
    (asks : traffic.rest caller = .classInfo type next) :
    traffic.rest caller = (executions caller).procedure ∧
      type = (executions caller).configured.type := by
  rcases orderly.follows caller with ⟨duty, follows, looking⟩
  rw [asks] at follows
  rcases follows with ⟨later, moves, -⟩
  have first := looking moves.eq_looking_of_found
  exact ⟨first, (Procedure.classInfo.inj (asks.symm.trans first)).1⟩

/-- User code does not answer the lookup with which an execution begins. -/
theorem idle
    (orderly : Orderly types executions traffic)
    {reply : Act Body × Procedure Body Parameters Completion × World}
    (replied : (traffic.rest caller).reply? code traffic.world = some reply) :
    traffic.shared.pending (.inl caller) = none := by
  cases pending : traffic.shared.pending (.inl caller) with
  | none => rfl
  | some entry =>
      rw [(orderly.opened pending).1] at replied
      cases replied

/-- The lookup of a caller gives the class info of its type. -/
theorem result_settle
    (orderly : Orderly types executions traffic)
    (distinct : types.InjOn TaskType.identity)
    (pending : traffic.shared.pending (.inl caller) = some (type, cell)) :
    (traffic.shared.store.settle cell type).1.result =
      ClassInfo.build (executions caller).configured.type := by
  rw [orderly.reached.result_settle distinct pending, (orderly.opened pending).2]

theorem follows_update
    (orderly : Orderly types executions traffic)
    {act : Act Body}
    {later : Procedure Body Parameters Completion}
    (takes : (traffic.rest caller).Takes act later)
    (other : Caller) :
    ∃ duty,
      Duty.Follows (executions other).configured duty
          (Function.update traffic.rest caller later other) ∧
        (duty = .looking →
          Function.update traffic.rest caller later other = (executions other).procedure) := by
  by_cases same : other = caller
  · subst same
    rw [Function.update_self]
    rcases orderly.follows other with ⟨duty, follows, -⟩
    rcases follows.step takes with ⟨after, moves, onward⟩
    exact ⟨after, onward, fun looking => absurd looking moves.ne_looking⟩
  · rw [Function.update_of_ne same]
    exact orderly.follows other

section Known

variable (known : ∀ caller, (executions caller).configured.type ∈ types)

include known

/-- A move does to the store what some thread can do, or nothing. -/
theorem onward
    (orderly : Orderly types executions traffic)
    (within : move.LooksUpIn types)
    (moves : Moves code traffic move after) :
    Relation.ReflTransGen (SharedStore.Steps types) traffic.shared after.shared := by
  cases moves with
  | obtain asks idle => exact .single (.obtain idle ((orderly.asks asks).2 ▸ known _))
  | settle asks pending => exact .single (.settle pending)
  | advance replied admitted => exact .refl
  | visit ran => exact .single (SharedStore.steps_of_run? within ran)

theorem step
    (distinct : types.InjOn TaskType.identity)
    (orderly : Orderly types executions traffic)
    (within : move.LooksUpIn types)
    (moves : Moves code traffic move after) :
    Orderly types executions after := by
  have reached := orderly.reached.onward (orderly.onward known within moves)
  cases moves with
  | @obtain caller type next asks idle =>
      refine ⟨reached, orderly.follows, ?_⟩
      intro other looked cell pending
      by_cases same : other = caller
      · subst same
        rw [pending_obtain_self] at pending
        cases pending
        exact orderly.asks asks
      · rw [pending_obtain_other (Sum.inl_injective.ne same)] at pending
        exact orderly.opened pending
  | @settle caller type requested next cell asks pending =>
      have found := orderly.result_settle distinct pending
      have takes :
          (traffic.rest caller).Takes (.found (ClassInfo.build requested))
            (next (traffic.shared.store.settle cell type).1.result) := by
        rw [asks, found, ← (orderly.asks asks).2]
        exact .classInfo
      refine ⟨reached, orderly.follows_update takes, ?_⟩
      intro other looked opened pending
      by_cases same : other = caller
      · subst same
        rw [pending_settle_self] at pending
        cases pending
      · rw [pending_settle_other (Sum.inl_injective.ne same)] at pending
        rw [rest_settle_other same]
        exact orderly.opened pending
  | @advance caller act rest project world replied admitted =>
      refine ⟨reached, orderly.follows_update (Procedure.takes_of_reply? replied), ?_⟩
      intro other looked cell pending
      have different : other ≠ caller := by
        rintro rfl
        cases pending.symm.trans (orderly.idle replied)
      rw [rest_advance_other different]
      exact orderly.opened pending
  | visit ran =>
      refine ⟨reached, orderly.follows, ?_⟩
      intro other looked cell pending
      rw [SharedStore.pending_of_run? ran Sum.inl_ne_inr] at pending
      exact orderly.opened pending

/-- What holds at the beginning and is kept by every move of orderly traffic holds after every
schedule. -/
@[elab_as_elim]
theorem play_induction
    {Holds : List (Move Body Caller Visitor) → Traffic Body Parameters World Caller Visitor → Prop}
    (distinct : types.InjOn TaskType.identity)
    (orderly : Orderly types executions traffic)
    (nil : Holds [] traffic)
    (concat :
      ∀ {taken between move after},
        Orderly types executions between → move.LooksUpIn types → Holds taken between →
          Moves code between move after → Holds (taken ++ [move]) after)
    (within : ∀ move ∈ schedule, move.LooksUpIn types)
    (played : traffic.play? code schedule = some after) :
    Holds schedule after := by
  suffices Orderly types executions after ∧ Holds schedule after from this.2
  induction schedule using List.reverseRecOn generalizing after with
  | nil =>
      cases played
      exact ⟨orderly, nil⟩
  | append_singleton taken move ih =>
      rcases List.forall_mem_append.1 within with ⟨within, withinLast⟩
      have last := withinLast move (List.mem_singleton_self _)
      rw [play?_concat] at played
      rcases Option.bind_eq_some_iff.1 played with ⟨between, earlier, moved⟩
      rcases ih within earlier with ⟨orderly, holds⟩
      have moves := moves_of_move? moved
      exact ⟨orderly.step known distinct last moves, concat orderly last holds moves⟩

/-- Traffic stays orderly along every schedule. -/
theorem play
    (distinct : types.InjOn TaskType.identity)
    (orderly : Orderly types executions traffic)
    (within : ∀ move ∈ schedule, move.LooksUpIn types)
    (played : traffic.play? code schedule = some after) :
    Orderly types executions after ∧
      Relation.ReflTransGen (SharedStore.Steps types) traffic.shared after.shared := by
  refine play_induction known distinct orderly ?nil ?concat within played
  case nil => exact ⟨orderly, .refl⟩
  case concat =>
    intro taken between move after _ within holds moves
    rcases holds with ⟨orderly, onward⟩
    exact ⟨orderly.step known distinct within moves,
      onward.trans (orderly.onward known within moves)⟩

end Known

end Orderly

end Traffic

end TaskDispatch
