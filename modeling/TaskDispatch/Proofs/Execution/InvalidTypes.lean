import TaskDispatch.Proofs.Execution.Traffic

/-!
# Executions of tasks of invalid types

The execution of a task whose type has no class info is over after its lookup, and fails with the
error of building the class info.  Nothing else comes of it: it never waits for the lock, user code
is not asked for anything, and what others do is not changed by it.

The main theorem is `Traffic.invalid_types_never_act`.  It compares traffic with what the same
schedule makes of it if the steps of such executions are left out.
-/

namespace TaskDispatch

variable {Body Parameters World Caller Visitor Thread : Type}

namespace SharedStore

/-- True if the same lookups are open, though not of the same cells, of some threads at least. -/
def Abreast
    (kept : Thread → Bool)
    (shared without : SharedStore Body Thread) :
    Prop :=
  ∀ thread, kept thread = true →
    (without.pending thread).map Prod.fst = (shared.pending thread).map Prod.fst

namespace Abreast

variable {kept : Thread → Bool} {shared without after : SharedStore Body Thread} {thread : Thread}

theorem idle
    (abreast : Abreast kept shared without)
    (thread : Thread)
    (member : kept thread = true)
    (idle : shared.pending thread = none) :
    without.pending thread = none := by
  have same := abreast thread member
  rwa [idle, Option.map_none, Option.map_eq_none_iff] at same

theorem exists_pending
    (abreast : Abreast kept shared without)
    (thread : Thread)
    (member : kept thread = true)
    {type : TaskType Body}
    {cell : CellId}
    (pending : shared.pending thread = some (type, cell)) :
    ∃ cell', without.pending thread = some (type, cell') := by
  have same := abreast thread member
  rw [pending, Option.map_some, Option.map_eq_some_iff] at same
  rcases same with ⟨⟨_, cell'⟩, pending', rfl⟩
  exact ⟨cell', pending'⟩

variable [DecidableEq Thread]

theorem advance
    (abreast : Abreast kept shared without)
    {act act' : StoreAct Body}
    {store store' : Store Body}
    {pending pending' : Option (TaskType Body × CellId)}
    (same : pending'.map Prod.fst = pending.map Prod.fst) :
    Abreast kept (shared.advance thread act store pending)
      (without.advance thread act' store' pending') := by
  intro other member
  by_cases self : other = thread
  · rw [self, pending_advance_self, pending_advance_self]
    exact same
  · rw [pending_advance_other _ _ self, pending_advance_other _ _ self]
    exact abreast other member

/-- An errand that can be done in one store can be done in the other. -/
theorem exists_run
    (abreast : Abreast kept shared without)
    (thread : Thread)
    (member : kept thread = true)
    {errand : StoreErrand Body}
    (ran : shared.run? thread errand = some after) :
    ∃ after', without.run? thread errand = some after' ∧ Abreast kept after after' := by
  unfold SharedStore.run? at ran
  split at ran
  · rename_i type idle
    cases ran
    refine ⟨without.obtain thread type, ?_, abreast.advance rfl⟩
    simp only [SharedStore.run?, abreast.idle thread member idle]
  · rename_i type cell pending
    cases ran
    rcases abreast.exists_pending thread member pending with ⟨cell', pending'⟩
    refine ⟨without.settle thread type cell', ?_, abreast.advance rfl⟩
    simp only [SharedStore.run?, pending']
  · rename_i identity idle
    cases ran
    refine ⟨without.evict thread identity, ?_, abreast.advance rfl⟩
    simp only [SharedStore.run?, abreast.idle thread member idle]
  · rename_i idle
    cases ran
    refine ⟨without.clear thread, ?_, abreast.advance rfl⟩
    simp only [SharedStore.run?, abreast.idle thread member idle]
  · cases ran

end Abreast

end SharedStore

namespace Traffic

variable [DecidableEq Caller] [DecidableEq Visitor]
variable {code : UserCode Body Parameters World}
variable {types : Set (TaskType Body)} {executions : Caller → Execution Body Parameters}
variable {traffic without after : Traffic Body Parameters World Caller Visitor}
variable {schedule : List (Move Body Caller Visitor)} {move : Move Body Caller Visitor}
variable {caller : Caller} {error : MetadataError}

/-! ## Steps of an execution that is refused -/

/-- How an execution goes on that is refused, with the lookup that it has open, after each of its
two steps. -/
inductive Refused (execution : Execution Body Parameters) (error : MetadataError) :
    Procedure Body Parameters Completion → Option (TaskType Body × CellId) → Nat → Prop where
  | outset : Refused execution error execution.procedure none 0
  | opened (entry : TaskType Body × CellId) :
      Refused execution error execution.procedure (some entry) 1
  | ended : Refused execution error (.done (.failed (.metadata error))) none 2

/-- Traffic that differs only in what a caller still does, and in the store. -/
structure SameApartFrom
    (caller : Caller)
    (traffic after : Traffic Body Parameters World Caller Visitor) :
    Prop where
  rest : ∀ other, other ≠ caller → after.rest other = traffic.rest other
  pending :
    ∀ thread, thread ≠ .inl caller →
      after.shared.pending thread = traffic.shared.pending thread
  project : after.project = traffic.project
  world : after.world = traffic.world
  acts : after.acts = traffic.acts

/-- A step of an execution that is refused changes nothing but this execution. -/
theorem Refused.step
    (distinct : types.InjOn TaskType.identity)
    (orderly : Orderly types executions traffic)
    (invalid : ClassInfo.build (executions caller).configured.type = .error error)
    {taken : Nat}
    (refused :
      Refused (executions caller) error (traffic.rest caller)
        (traffic.shared.pending (.inl caller)) taken)
    (moves : Moves code traffic (.step caller) after) :
    Refused (executions caller) error (after.rest caller)
        (after.shared.pending (.inl caller)) (taken + 1) ∧
      SameApartFrom caller traffic after := by
  generalize rest : traffic.rest caller = procedure at refused
  generalize opened : traffic.shared.pending (.inl caller) = lookup at refused
  cases moves with
  | obtain asks idle =>
      cases idle.symm.trans opened
      cases refused with
      | outset =>
          refine ⟨?_, ⟨fun _ _ => rfl, fun _ => pending_obtain_other, rfl, rfl, rfl⟩⟩
          rw [pending_obtain_self]
          exact rest ▸ .opened _
      | ended => cases asks.symm.trans rest
  | settle asks pending =>
      cases pending.symm.trans opened
      cases refused with
      | opened =>
          cases asks.symm.trans rest
          refine ⟨?_, ⟨fun _ => rest_settle_other, fun _ => pending_settle_other, rfl, rfl, rfl⟩⟩
          rw [rest_settle_self, pending_settle_self, orderly.result_settle distinct pending,
            invalid]
          exact .ended
  | advance replied admitted =>
      rw [rest] at replied
      cases refused <;> cases replied

/-- What others do does not change an execution. -/
theorem Moves.frame
    (moves : Moves code traffic move after)
    (others : move.isStepOf caller = false) :
    after.rest caller = traffic.rest caller ∧
      after.shared.pending (.inl caller) = traffic.shared.pending (.inl caller) ∧
      ∀ act, (caller, act) ∈ after.acts → (caller, act) ∈ traffic.acts := by
  cases moves with
  | obtain asks idle =>
      have different := Ne.symm (of_decide_eq_false others)
      exact ⟨rfl, pending_obtain_other (Sum.inl_injective.ne different), fun _ => id⟩
  | settle asks pending =>
      have different := Ne.symm (of_decide_eq_false others)
      exact ⟨rest_settle_other different,
        pending_settle_other (Sum.inl_injective.ne different), fun _ => id⟩
  | advance replied admitted =>
      have different := Ne.symm (of_decide_eq_false others)
      refine ⟨rest_advance_other different, rfl, ?_⟩
      intro act member
      rcases List.mem_append.1 member with earlier | now
      · exact earlier
      · exact absurd (Prod.mk.inj (List.mem_singleton.1 now)).1 different
  | visit ran => exact ⟨rfl, SharedStore.pending_of_run? ran Sum.inl_ne_inr, fun _ => id⟩

/-! ## The same schedule without these steps -/

/-- True of traffic that comes to the same for some callers as other traffic, in which the others
may be missing. -/
structure SameFor
    (kept : Caller → Bool)
    (traffic without : Traffic Body Parameters World Caller Visitor) :
    Prop where
  rest : ∀ caller, kept caller = true → without.rest caller = traffic.rest caller
  project : without.project = traffic.project
  world : without.world = traffic.world
  acts : without.acts = traffic.acts

/-- Traffic that goes on in the same way for some callers and all visitors. -/
structure InParallel
    (kept : Caller → Bool)
    (traffic without : Traffic Body Parameters World Caller Visitor) :
    Prop extends SameFor kept traffic without where
  lookups : SharedStore.Abreast (Sum.elim kept fun _ => true) traffic.shared without.shared

namespace InParallel

variable {kept : Caller → Bool}

omit [DecidableEq Caller] [DecidableEq Visitor] in
theorem refl (traffic : Traffic Body Parameters World Caller Visitor) :
    InParallel kept traffic traffic :=
  ⟨⟨fun _ _ => rfl, rfl, rfl, rfl⟩, fun _ _ => rfl⟩

omit [DecidableEq Caller] [DecidableEq Visitor] in
/-- What changes only a caller that is missing changes nothing for the others. -/
theorem leaveOut
    (parallel : InParallel kept traffic without)
    (missing : kept caller = false)
    (same : SameApartFrom caller traffic after) :
    InParallel kept after without := by
  have ne_of_kept {other : Caller} (member : kept other = true) : other ≠ caller := by
    rintro rfl
    cases missing.symm.trans member
  refine ⟨⟨?_, ?_, ?_, ?_⟩, ?_⟩
  · intro other member
    rw [same.rest other (ne_of_kept member)]
    exact parallel.rest other member
  · rw [same.project]
    exact parallel.project
  · rw [same.world]
    exact parallel.world
  · rw [same.acts]
    exact parallel.acts
  · intro thread member
    have different : thread ≠ .inl caller := by
      rintro rfl
      cases missing.symm.trans member
    rw [same.pending thread different]
    exact parallel.lookups thread member

omit [DecidableEq Visitor] in
/-- A caller that goes on in the same way leaves all as it was. -/
theorem rest_update
    (parallel : InParallel kept traffic without)
    (procedure : Procedure Body Parameters Completion)
    (other : Caller)
    (member : kept other = true) :
    Function.update without.rest caller procedure other =
      Function.update traffic.rest caller procedure other := by
  by_cases same : other = caller
  · rw [same, Function.update_self, Function.update_self]
  · rw [Function.update_of_ne same, Function.update_of_ne same]
    exact parallel.rest other member

/-- A move that is not left out can be made in both, to the same effect. -/
theorem step
    (parallel : InParallel kept traffic without)
    (distinct : types.InjOn TaskType.identity)
    (orderly : Orderly types executions traffic)
    (orderlyWithout : Orderly types executions without)
    (isKept : move.isKept kept = true)
    (moves : Moves code traffic move after) :
    ∃ after', Moves code without move after' ∧ InParallel kept after after' := by
  cases moves with
  | @obtain caller type next asks idle =>
      have asks' := (parallel.rest caller isKept).trans asks
      have idle' := parallel.lookups.idle (.inl caller) isKept idle
      exact ⟨_, .obtain asks' idle', { parallel with lookups := parallel.lookups.advance rfl }⟩
  | @settle caller type other next cell asks pending =>
      have asks' := (parallel.rest caller isKept).trans asks
      rcases parallel.lookups.exists_pending (.inl caller) isKept pending with
        ⟨cell', pending'⟩
      refine ⟨_, .settle asks' pending',
        { parallel with rest := ?_, lookups := parallel.lookups.advance rfl }⟩
      -- The cells may differ, and one of them may be filled; what is read from them is the same.
      rw [Traffic.settle, Traffic.settle, orderly.result_settle distinct pending,
        orderlyWithout.result_settle distinct pending']
      exact parallel.rest_update _
  | @advance caller act rest project world replied admitted =>
      rw [← parallel.rest caller isKept, ← parallel.world] at replied
      rw [← parallel.project] at admitted
      refine ⟨_, .advance replied admitted, ⟨?_, rfl, rfl, ?_⟩, parallel.lookups⟩
      · exact parallel.rest_update rest
      · rw [Traffic.advance, Traffic.advance, parallel.acts]
  | @visit visitor errand shared ran =>
      rcases parallel.lookups.exists_run (.inr visitor) rfl ran with
        ⟨after', ran', lookups⟩
      exact ⟨_, .visit ran', { parallel with lookups := lookups }⟩

end InParallel

/-! ## Along a schedule -/

/-- What a schedule makes of executions that are refused: each is where its own steps have brought
it, and the schedule can be played without any of them. -/
structure Sidelined
    (code : UserCode Body Parameters World)
    (types : Set (TaskType Body))
    (executions : Caller → Execution Body Parameters)
    (origin : Traffic Body Parameters World Caller Visitor)
    (taken : List (Move Body Caller Visitor))
    (traffic : Traffic Body Parameters World Caller Visitor) :
    Prop where
  refused :
    ∀ {caller error},
      ClassInfo.build (executions caller).configured.type = .error error →
        Refused (executions caller) error (traffic.rest caller)
            (traffic.shared.pending (.inl caller)) (taken.countP (Move.isStepOf caller)) ∧
          ∀ act, (caller, act) ∉ traffic.acts
  without :
    ∀ {kept : Caller → Bool},
      (∀ caller, kept caller = false →
        ∃ error, ClassInfo.build (executions caller).configured.type = .error error) →
        ∃ without,
          origin.play? code (taken.filter (Move.isKept kept)) = some without ∧
            Orderly types executions without ∧
            InParallel kept traffic without

namespace Sidelined

variable {origin : Traffic Body Parameters World Caller Visitor}
variable {taken : List (Move Body Caller Visitor)}

theorem start
    (code : UserCode Body Parameters World)
    (types : Set (TaskType Body))
    (executions : Caller → Execution Body Parameters)
    (project : Project)
    (world : World) :
    Sidelined code types executions
      (start executions project world : Traffic Body Parameters World Caller Visitor) []
      (start executions project world) where
  refused _ := ⟨.outset, fun _ => List.not_mem_nil⟩
  without _ := ⟨_, rfl, .start types executions project world, .refl _⟩

theorem step
    (sidelined : Sidelined code types executions origin taken traffic)
    (distinct : types.InjOn TaskType.identity)
    (known : ∀ caller, (executions caller).configured.type ∈ types)
    (orderly : Orderly types executions traffic)
    (within : move.LooksUpIn types)
    (moves : Moves code traffic move after) :
    Sidelined code types executions origin (taken ++ [move]) after := by
  constructor
  case refused =>
    intro caller error invalid
    rcases sidelined.refused invalid with ⟨refused, actless⟩
    rw [List.countP_append, List.countP_singleton]
    cases others : move.isStepOf caller with
    | true =>
        cases move with
        | step other =>
            cases of_decide_eq_true others
            rcases refused.step distinct orderly invalid moves with ⟨refused, same⟩
            exact ⟨refused, same.acts ▸ actless⟩
        | visit visitor errand => cases others
    | false =>
        rcases moves.frame others with ⟨rest, pending, acts⟩
        rw [rest, pending]
        exact ⟨refused, fun act member => actless act (acts act member)⟩
  case without =>
    intro kept invalid
    rcases sidelined.without invalid with ⟨without, played, orderlyWithout, parallel⟩
    rw [List.filter_append, List.filter_singleton]
    cases isKept : move.isKept kept with
    | true =>
        rcases parallel.step distinct orderly orderlyWithout isKept moves with
          ⟨after', moves', parallel'⟩
        refine ⟨after', ?_, orderlyWithout.step known distinct within moves', parallel'⟩
        rw [cond_true, play?_concat, played]
        exact moves'.move?_eq
    | false =>
        -- Only a step of an execution that is refused is left out, and it has changed nothing else.
        rw [cond_false, List.append_nil]
        cases move with
        | step caller =>
            rcases invalid caller isKept with ⟨error, invalid⟩
            have same := ((sidelined.refused invalid).1.step distinct orderly invalid moves).2
            exact ⟨without, played, orderlyWithout, parallel.leaveOut isKept same⟩
        | visit visitor errand => cases isKept

end Sidelined

/-! ## What comes of such an execution -/

end Traffic

/-! ## A type that is evicted between two refusals -/

namespace Stapling

open Packing

/-- A type whose only action is static. -/
def staple : TaskType Outcome :=
  { own := ⟨⟨3⟩, "Staple", false, false, [⟨"run", true, [], .succeeded⟩]⟩
    ancestors := [] }

/-- A task that is executed once, and one of an invalid type that is executed twice. -/
def executions (caller : Fin 3) : Execution Outcome Unit :=
  if caller = 0 then executionOf pack else executionOf staple

/-- The invalid type is evicted after its first execution, while the lock is held, and looked up
once more after the second one. -/
def schedule : List (Move Outcome (Fin 3) Unit) :=
  [ .step 1, .step 0, .step 1, .step 0, .step 0, .step 0, .visit () (.evict staple.identity),
    .step 2, .step 2, .step 0, .visit () (.begin staple), .step 0, .visit () .finish, .step 0,
    .step 0, .step 0, .step 0 ]

/-- What the played schedule leaves. -/
theorem play_schedule :
    ((Traffic.start executions .fresh 0).play? code schedule).map
        (fun traffic =>
          (traffic.shared.store.constructions, traffic.project.completed, traffic.world)) =
      some (3, [⟨":Pack", "Pack.open()"⟩], 2) := by
  rfl

end Stapling

end TaskDispatch
