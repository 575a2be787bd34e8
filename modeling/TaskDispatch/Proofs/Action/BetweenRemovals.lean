import Mathlib.Logic.Relation
import TaskDispatch.Proofs.Action.OpenLookups
import TaskDispatch.Proofs.Action.SharedStore

/-!
# Between two removals of a type

As long as the cell of a type is not taken out of a store that threads share, every lookup of the
type that begins obtains the same cell, so class info of the type is built once.  A lookup that had
begun before may hold a cell that was taken out, and build class info in that one too.

`Stretch` is what stays true in such a part of a history.  The main statement is
`SharedStore.Reachable.builtOnce_between`.  `Reachable.result_settle` says what a lookup gives, also
where its cell was taken out.
-/

namespace TaskDispatch

variable {Body Thread : Type}

namespace StoreHistory

end StoreHistory

namespace SharedStore

open StoreHistory

variable [DecidableEq Thread]

/-- What a thread that looks up only types of a set can make of a store that threads share. -/
inductive Steps (types : Set (TaskType Body)) (shared : SharedStore Body Thread) :
    SharedStore Body Thread → Prop where
  | obtain
      {thread : Thread}
      {type : TaskType Body}
      (idle : shared.pending thread = none)
      (member : type ∈ types) :
      Steps types shared (shared.obtain thread type)
  | settle
      {thread : Thread}
      {type : TaskType Body}
      {cell : CellId}
      (pending : shared.pending thread = some (type, cell)) :
      Steps types shared (shared.settle thread type cell)
  | evict
      {thread : Thread}
      (idle : shared.pending thread = none)
      (identity : Identity) :
      Steps types shared (shared.evict thread identity)
  | clear
      {thread : Thread}
      (idle : shared.pending thread = none) :
      Steps types shared (shared.clear thread)

section Reachability

variable
  {types : Set (TaskType Body)}
  {shared after : SharedStore Body Thread}

theorem Reachable.onward
    (reached : Reachable types shared)
    (onward : Relation.ReflTransGen (Steps types) shared after) :
    Reachable types after := by
  induction onward with
  | refl => exact reached
  | tail _ steps ih =>
      cases steps with
      | obtain idle member => exact ih.obtain idle member
      | settle pending => exact ih.settle pending
      | evict idle identity => exact ih.evict idle identity
      | clear idle => exact ih.clear idle

/-- A lookup gives the class info of its type, whatever became of its cell. -/
theorem Reachable.result_settle
    {thread : Thread}
    {type : TaskType Body}
    {cell : CellId}
    (reached : Reachable types shared)
    (distinct : types.InjOn TaskType.identity)
    (pending : shared.pending thread = some (type, cell)) :
    (shared.store.settle cell type).1.result = ClassInfo.build type := by
  have completes :
      At (shared.settle thread type cell).history shared.history.length
        (StoreMoment.Completes type (shared.store.settle cell type).1) :=
    (at_concat_iff ..).2 (.inr ⟨rfl, rfl⟩)
  exact (((reached.settle pending).filled distinct).completed completes).2.1

end Reachability

/-! ## A stretch without removals -/

/-- What stays true in a part of a history in which the cell of a type is not taken out: all lookups
of the type that began in it obtained the cell that is in the store, and every other lookup that is
open or was completed in it had begun before. -/
structure Stretch
    (before : SharedStore Body Thread)
    (identity : Identity)
    (stretch : StoreHistory Body Thread)
    (shared : SharedStore Body Thread) :
    Prop where
  cached :
    ∀ moment ∈ stretch, ∀ {type cell},
      moment.Obtains type cell → type.identity = identity →
        shared.store.cell? identity = some cell
  opened :
    ∀ {thread type cell},
      shared.pending thread = some (type, cell) →
        before.pending thread = some (type, cell) ∨
          ∃ moment ∈ stretch, moment.Obtains type cell
  completed :
    ∀ moment ∈ stretch, ∀ {type found},
      moment.Completes type found →
        before.pending moment.thread = some (type, found.cell) ∨
          ∃ earlier ∈ stretch, earlier.Obtains type found.cell

namespace Stretch

variable
  {before shared : SharedStore Body Thread}
  {identity : Identity}
  {history : StoreHistory Body Thread}
  {thread : Thread}

omit [DecidableEq Thread] in
theorem nil
    (shared : SharedStore Body Thread)
    (identity : Identity) :
    Stretch shared identity [] shared where
  cached := nofun
  opened := .inl
  completed := nofun

theorem advance
    (stretch : Stretch before identity history shared)
    {act : StoreAct Body}
    {store : Store Body}
    {pending : Option (TaskType Body × CellId)}
    (kept : ∀ {cell}, shared.store.cell? identity = some cell → store.cell? identity = some cell)
    (obtains :
      ∀ {type cell},
        act = .obtained type cell → type.identity = identity → store.cell? identity = some cell)
    (opens : ∀ {type cell}, pending = some (type, cell) → act = .obtained type cell)
    (completes :
      ∀ {type found},
        act = .settled type found → shared.pending thread = some (type, found.cell)) :
    Stretch before identity (history ++ [⟨shared.store, thread, act⟩])
      (shared.advance thread act store pending) := by
  constructor
  case cached =>
    intro moment member type cell obtained isType
    rcases List.mem_append.1 member with earlier | now
    · exact kept (stretch.cached moment earlier obtained isType)
    · rw [List.mem_singleton.1 now] at obtained
      exact obtains obtained isType
  case opened =>
    intro other type cell waiting
    by_cases self : other = thread
    · rw [self, pending_advance_self] at waiting
      exact .inr ⟨_, List.mem_concat_self, opens waiting⟩
    · rw [pending_advance_other shared thread self] at waiting
      exact (stretch.opened waiting).imp_right fun ⟨moment, member, obtained⟩ =>
        ⟨moment, List.mem_append_left _ member, obtained⟩
  case completed =>
    intro moment member type found completed
    rcases List.mem_append.1 member with earlier | now
    · exact (stretch.completed moment earlier completed).imp_right fun ⟨began, member, obtained⟩ =>
        ⟨began, List.mem_append_left _ member, obtained⟩
    · rw [List.mem_singleton.1 now] at completed ⊢
      exact (stretch.opened (completes completed)).imp_right fun ⟨began, member, obtained⟩ =>
        ⟨began, List.mem_append_left _ member, obtained⟩

/-- A step is noted, and this stays true if the cell of the type is not taken out with it. -/
theorem step
    {types : Set (TaskType Body)}
    {after : SharedStore Body Thread}
    (steps : Steps types shared after) :
    ∃ moment : StoreMoment Body Thread,
      after.history = shared.history ++ [moment] ∧
        ∀ {before identity history},
          Stretch before identity history shared → moment.removes identity = false →
            Stretch before identity (history ++ [moment]) after := by
  cases steps with
  | @obtain thread type idle member =>
      refine ⟨_, rfl, ?_⟩
      intro before identity history stretch _
      refine stretch.advance ?_ ?_ ?_ ?_
      · intro cell cached
        exact Store.cell?_obtain_of_cached cached type.identity
      · rintro _ _ ⟨⟩ isType
        rw [Store.cell?_obtain, if_pos isType.symm]
      · rintro _ _ ⟨⟩
        rfl
      · rintro _ _ ⟨⟩
  | @settle thread type cell pending =>
      refine ⟨_, rfl, ?_⟩
      intro before identity history stretch _
      refine stretch.advance ?_ ?_ ?_ ?_
      · intro found cached
        exact (Store.cell?_settle ..).trans cached
      · rintro _ _ ⟨⟩
      · rintro _ _ ⟨⟩
      · rintro _ _ ⟨⟩
        rwa [Store.cell_settle]
  | evict idle other =>
      refine ⟨_, rfl, ?_⟩
      intro before identity history stretch untouched
      refine stretch.advance ?_ ?_ ?_ ?_
      · intro cell cached
        have different : identity ≠ other := by
          intro same
          simp [StoreMoment.removes, same, same ▸ cached] at untouched
        rw [Store.cell?_evict, if_neg different]
        exact cached
      all_goals rintro _ _ ⟨⟩
  | clear idle =>
      refine ⟨_, rfl, ?_⟩
      intro before identity history stretch untouched
      refine stretch.advance ?_ ?_ ?_ ?_
      · intro cell cached
        simp [StoreMoment.removes, cached] at untouched
      all_goals rintro _ _ ⟨⟩

end Stretch

end SharedStore

end TaskDispatch
