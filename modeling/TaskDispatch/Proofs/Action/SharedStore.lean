import Mathlib.Data.List.Perm.Subperm
import Mathlib.Logic.Function.Basic
import TaskDispatch.Proofs.Action.Memo

/-!
# A store that threads share

Any number of threads look types up, evict and clear at the same time.  A lookup takes two steps,
and between them other threads may do anything, also take out of the store the cell that the lookup
has obtained.  Then several generations of cells of one type live at once.

A history lists what was done, each moment with the store as it was before.  From a history it can
be told which cells were *made*, that is, put into the store, which were *filled*, that is, had
class info built into them, and how often the cell of a type was taken out.  The argument is a count
of cells: those filled are among those made, no cell is made or filled twice, and of the cells made
for a type all but the one in the store have been taken out.

An object is known by the position in the history at which it was built.  The main statement is
`SharedStore.Reachable.builtOnce`.
-/

namespace TaskDispatch

variable {Body Thread : Type}

/-! ## Histories -/

/-- What a thread does to a store. -/
inductive StoreAct (Body : Type) where
  /-- The first step of a lookup of a type, with the cell that it obtained. -/
  | obtained (type : TaskType Body) (cell : CellId)
  /-- The second step of a lookup of a type, with what the lookup gives. -/
  | settled (type : TaskType Body) (found : Store.Found Body)
  | evicted (identity : Identity)
  | cleared

/-- What a thread did, with the store as it was before. -/
structure StoreMoment (Body Thread : Type) where
  before : Store Body
  thread : Thread
  act : StoreAct Body

namespace StoreMoment

/-- The cell made at a moment, with the identity of the type that it is made for. -/
def made? (moment : StoreMoment Body Thread) : Option (Identity × CellId) :=
  match moment.act with
  | .obtained type cell =>
      match moment.before.cell? type.identity with
      | none => some (type.identity, cell)
      | some _ => none
  | _ => none

/-- The cell filled at a moment, with the identity of the type whose class info is built. -/
def filled? (moment : StoreMoment Body Thread) : Option (Identity × CellId) :=
  match moment.act with
  | .settled type found =>
      match moment.before.content? found.cell with
      | none => some (type.identity, found.cell)
      | some _ => none
  | _ => none

/-- True if the cell of a type with this identity is taken out of the store at a moment. -/
def removes (identity : Identity) (moment : StoreMoment Body Thread) : Bool :=
  match moment.act with
  | .evicted other => identity = other && (moment.before.cell? identity).isSome
  | .cleared => (moment.before.cell? identity).isSome
  | _ => false

def Obtains (type : TaskType Body) (cell : CellId) (moment : StoreMoment Body Thread) : Prop :=
  moment.act = .obtained type cell

def Completes
    (type : TaskType Body)
    (found : Store.Found Body)
    (moment : StoreMoment Body Thread) :
    Prop :=
  moment.act = .settled type found

/-- True if class info of a type is built into a cell at a moment, with this result. -/
def Builds
    (type : TaskType Body)
    (cell : CellId)
    (result : ClassInfoResult Body)
    (moment : StoreMoment Body Thread) :
    Prop :=
  ∃ found,
    moment.Completes type found ∧
      found.result = result ∧
      moment.filled? = some (type.identity, cell)

end StoreMoment

abbrev StoreHistory (Body Thread : Type) := List (StoreMoment Body Thread)

namespace StoreHistory

variable (history : StoreHistory Body Thread) (moment : StoreMoment Body Thread)

def made : List (Identity × CellId) := history.filterMap StoreMoment.made?

/-- The cells filled, in order; class info is built once for each. -/
def filled : List (Identity × CellId) := history.filterMap StoreMoment.filled?

/-- How often the cell of a type with this identity was taken out. -/
def removals (identity : Identity) : Nat := history.countP (StoreMoment.removes identity)

/-- True if something holds of the moment at a position. -/
def At (position : Nat) (Holds : StoreMoment Body Thread → Prop) : Prop :=
  ∃ moment, history[position]? = some moment ∧ Holds moment

theorem made_concat : made (history ++ [moment]) = made history ++ moment.made?.toList := by
  rw [made, List.filterMap_append, List.filterMap_cons, List.filterMap_nil]
  cases moment.made? <;> rfl

theorem made_subset_concat : made history ⊆ made (history ++ [moment]) := by
  rw [made_concat]
  exact List.subset_append_left _ _

theorem filled_concat :
    filled (history ++ [moment]) = filled history ++ moment.filled?.toList := by
  rw [filled, List.filterMap_append, List.filterMap_cons, List.filterMap_nil]
  cases moment.filled? <;> rfl

theorem removals_concat (identity : Identity) :
    removals (history ++ [moment]) identity =
      removals history identity + if moment.removes identity then 1 else 0 := by
  rw [removals, List.countP_append, List.countP_singleton]
  rfl

theorem at_concat_iff (position : Nat) (Holds : StoreMoment Body Thread → Prop) :
    At (history ++ [moment]) position Holds ↔
      At history position Holds ∨ position = history.length ∧ Holds moment := by
  have last : (history ++ [moment])[history.length]? = some moment := List.getElem?_concat_length
  constructor
  · rintro ⟨other, present, holds⟩
    by_cases before : position < history.length
    · rw [List.getElem?_append_left before] at present
      exact .inl ⟨other, present, holds⟩
    · have bounded := (List.getElem?_eq_some_iff.1 present).1
      rw [List.length_append, List.length_singleton] at bounded
      have isLast : position = history.length := by omega
      rw [isLast, last, Option.some.injEq] at present
      exact .inr ⟨isLast, present ▸ holds⟩
  · rintro (⟨other, present, holds⟩ | ⟨rfl, holds⟩)
    · have before := (List.getElem?_eq_some_iff.1 present).1
      exact ⟨other, by rwa [List.getElem?_append_left before], holds⟩
    · exact ⟨moment, last, holds⟩

variable {history moment}

theorem At.lt_length
    {position : Nat}
    {Holds : StoreMoment Body Thread → Prop}
    (happens : At history position Holds) :
    position < history.length := by
  rcases happens with ⟨moment, present, -⟩
  exact (List.getElem?_eq_some_iff.1 present).1

theorem At.concat
    {position : Nat}
    {Holds : StoreMoment Body Thread → Prop}
    (happens : At history position Holds)
    (moment : StoreMoment Body Thread) :
    At (history ++ [moment]) position Holds :=
  (at_concat_iff history moment position Holds).2 (.inl happens)

theorem mem_filled_iff (entry : Identity × CellId) :
    entry ∈ filled history ↔
      ∃ position type result,
        entry.1 = type.identity ∧ At history position (StoreMoment.Builds type entry.2 result) := by
  constructor
  · intro member
    rcases List.mem_filterMap.1 member with ⟨moment, inHistory, isEntry⟩
    rcases List.mem_iff_getElem?.1 inHistory with ⟨position, present⟩
    have fills := isEntry
    unfold StoreMoment.filled? at fills
    split at fills
    · rename_i type found act
      split at fills
      · cases fills
        exact ⟨position, type, found.result, rfl, moment, present, found, act, rfl, isEntry⟩
      · cases fills
    · cases fills
  · rintro ⟨position, type, result, same, moment, present, found, -, -, fills⟩
    refine List.mem_filterMap.2 ⟨moment, List.mem_of_getElem? present, ?_⟩
    rw [fills, ← same]

end StoreHistory

/-! ## Threads -/

/-- Where threads stand that share a store. -/
structure SharedStore (Body Thread : Type) where
  store : Store Body
  /-- The lookup of each thread that has taken its first step only: its type and its cell. -/
  pending : Thread → Option (TaskType Body × CellId)
  history : StoreHistory Body Thread

namespace SharedStore

open StoreHistory

variable [DecidableEq Thread]

def start : SharedStore Body Thread := ⟨.empty, fun _ => none, []⟩

section Steps

variable (shared : SharedStore Body Thread) (thread : Thread)

/-- After something was done, which left this store and this pending lookup. -/
def advance
    (act : StoreAct Body)
    (store : Store Body)
    (pending : Option (TaskType Body × CellId)) :
    SharedStore Body Thread :=
  ⟨store, Function.update shared.pending thread pending,
    shared.history ++ [⟨shared.store, thread, act⟩]⟩

@[simp]
theorem pending_advance_self
    (act : StoreAct Body)
    (store : Store Body)
    (pending : Option (TaskType Body × CellId)) :
    (shared.advance thread act store pending).pending thread = pending :=
  Function.update_self ..

theorem pending_advance_other
    {other : Thread}
    (different : other ≠ thread)
    (act : StoreAct Body)
    (store : Store Body)
    (pending : Option (TaskType Body × CellId)) :
    (shared.advance thread act store pending).pending other = shared.pending other :=
  Function.update_of_ne different ..

def obtain (type : TaskType Body) : SharedStore Body Thread :=
  let step := shared.store.obtain type.identity
  shared.advance thread (.obtained type step.1) step.2 (some (type, step.1))

def settle (type : TaskType Body) (cell : CellId) : SharedStore Body Thread :=
  let step := shared.store.settle cell type
  shared.advance thread (.settled type step.1) step.2 none

def evict (identity : Identity) : SharedStore Body Thread :=
  shared.advance thread (.evicted identity) (shared.store.evict identity).2 none

def clear : SharedStore Body Thread :=
  shared.advance thread .cleared shared.store.clear none

end Steps

/-- True of what threads can come to that look up only types of a set. -/
inductive Reachable (types : Set (TaskType Body)) : SharedStore Body Thread → Prop where
  | start : Reachable types start
  | obtain
      {shared : SharedStore Body Thread}
      {thread : Thread}
      {type : TaskType Body}
      (reached : Reachable types shared)
      (idle : shared.pending thread = none)
      (member : type ∈ types) :
      Reachable types (shared.obtain thread type)
  | settle
      {shared : SharedStore Body Thread}
      {thread : Thread}
      {type : TaskType Body}
      {cell : CellId}
      (reached : Reachable types shared)
      (pending : shared.pending thread = some (type, cell)) :
      Reachable types (shared.settle thread type cell)
  | evict
      {shared : SharedStore Body Thread}
      {thread : Thread}
      (reached : Reachable types shared)
      (idle : shared.pending thread = none)
      (identity : Identity) :
      Reachable types (shared.evict thread identity)
  | clear
      {shared : SharedStore Body Thread}
      {thread : Thread}
      (reached : Reachable types shared)
      (idle : shared.pending thread = none) :
      Reachable types (shared.clear thread)

/-! ## Cells that are made -/

section Cells

variable
  {types : Set (TaskType Body)}
  {shared : SharedStore Body Thread}
  {thread : Thread}
  {type : TaskType Body}
  {cell : CellId}

theorem obtain_of_cached (cached : shared.store.cell? type.identity = some cell) :
    shared.obtain thread type =
      shared.advance thread (.obtained type cell) shared.store (some (type, cell)) := by
  rw [obtain, Store.obtain_of_cached _ _ cached]

theorem obtain_of_missing (missing : shared.store.cell? type.identity = none) :
    shared.obtain thread type =
      shared.advance thread (.obtained type shared.store.nextCell)
        (shared.store.obtain type.identity).2 (some (type, shared.store.nextCell)) := by
  rw [obtain, Store.obtain_of_missing _ _ missing]

/-- Every cell in the store, or obtained by a lookup, was made for its type, and no cell was made
for two. -/
structure Allocated (types : Set (TaskType Body)) (shared : SharedStore Body Thread) : Prop where
  made_nodup : (shared.history.made.map Prod.snd).Nodup
  made_lt : ∀ entry ∈ shared.history.made, entry.2 < shared.store.nextCell
  cached_made :
    ∀ {identity cell},
      shared.store.cell? identity = some cell → (identity, cell) ∈ shared.history.made
  pending_made :
    ∀ {thread type cell},
      shared.pending thread = some (type, cell) →
        type ∈ types ∧ (type.identity, cell) ∈ shared.history.made

/-- A step that makes no cell keeps this, whatever it takes out. -/
theorem Allocated.advance
    (allocated : Allocated types shared)
    {act : StoreAct Body}
    {store : Store Body}
    {pending : Option (TaskType Body × CellId)}
    (nothingMade : StoreMoment.made? ⟨shared.store, thread, act⟩ = none)
    (sameNext : store.nextCell = shared.store.nextCell)
    (kept :
      ∀ {identity cell},
        store.cell? identity = some cell → shared.store.cell? identity = some cell)
    (known :
      ∀ {type cell},
        pending = some (type, cell) →
          type ∈ types ∧ (type.identity, cell) ∈ shared.history.made) :
    Allocated types (shared.advance thread act store pending) := by
  have same : (shared.advance thread act store pending).history.made = shared.history.made := by
    rw [SharedStore.advance, made_concat, nothingMade, Option.toList_none, List.append_nil]
  constructor
  case made_nodup =>
    rw [same]
    exact allocated.made_nodup
  case made_lt =>
    rw [same]
    intro entry member
    exact (allocated.made_lt entry member).trans_eq sameNext.symm
  case cached_made =>
    rw [same]
    intro identity cell cached
    exact allocated.cached_made (kept cached)
  case pending_made =>
    rw [same]
    intro other type cell waiting
    by_cases self : other = thread
    · subst self
      rw [pending_advance_self] at waiting
      exact known waiting
    · rw [pending_advance_other shared thread self] at waiting
      exact allocated.pending_made waiting

/-- A lookup that finds no cell makes one that has not been made before. -/
theorem Allocated.make
    (allocated : Allocated types shared)
    (member : type ∈ types)
    (missing : shared.store.cell? type.identity = none) :
    Allocated types (shared.obtain thread type) := by
  rw [obtain_of_missing missing]
  have made :
      StoreHistory.made
          (shared.history ++ [⟨shared.store, thread, .obtained type shared.store.nextCell⟩]) =
        shared.history.made ++ [(type.identity, shared.store.nextCell)] := by
    rw [made_concat]
    simp only [StoreMoment.made?, missing, Option.toList_some]
  have next :
      (shared.store.obtain type.identity).2.nextCell = shared.store.nextCell + 1 := by
    rw [Store.obtain_of_missing _ _ missing]
  have fresh : shared.store.nextCell ∉ shared.history.made.map Prod.snd := by
    intro old
    rcases List.mem_map.1 old with ⟨entry, inMade, same⟩
    exact absurd same (Nat.ne_of_lt (allocated.made_lt entry inMade))
  constructor
  case made_nodup =>
    rw [SharedStore.advance, made, List.map_append, List.map_cons, List.map_nil,
      ← List.concat_eq_append]
    exact allocated.made_nodup.concat fresh
  case made_lt =>
    rw [SharedStore.advance, made, next]
    intro entry inMade
    rcases List.mem_append.1 inMade with old | new
    · exact Nat.lt_succ_of_lt (allocated.made_lt entry old)
    · rw [List.mem_singleton.1 new]
      exact Nat.lt_succ_self _
  case cached_made =>
    rw [SharedStore.advance, made]
    intro identity cell cached
    rw [Store.cell?_obtain, Store.cell_obtain, missing] at cached
    split at cached
    case isTrue same =>
      cases cached
      rw [same]
      exact List.mem_append_right _ (List.mem_singleton_self _)
    case isFalse => exact List.mem_append_left _ (allocated.cached_made cached)
  case pending_made =>
    rw [SharedStore.advance, made]
    intro other type' cell waiting
    by_cases self : other = thread
    · subst self
      rw [← SharedStore.advance, pending_advance_self] at waiting
      cases waiting
      exact ⟨member, List.mem_append_right _ (List.mem_singleton_self _)⟩
    · rw [← SharedStore.advance, pending_advance_other _ _ self] at waiting
      rcases allocated.pending_made waiting with ⟨known, inMade⟩
      exact ⟨known, List.mem_append_left _ inMade⟩

theorem Reachable.allocated (reached : Reachable types shared) : Allocated types shared := by
  induction reached with
  | start => exact ⟨List.nodup_nil, nofun, nofun, nofun⟩
  | @obtain shared thread type reached idle member ih =>
      cases found : shared.store.cell? type.identity with
      | some cell =>
          rw [obtain_of_cached found]
          apply ih.advance _ rfl id
          · rintro _ _ ⟨⟩
            exact ⟨member, ih.cached_made found⟩
          · simp only [StoreMoment.made?, found]
      | none => exact ih.make member found
  | @settle shared thread type cell reached pending ih =>
      refine ih.advance rfl (Store.nextCell_settle ..) ?_ ?_
      · intro identity other cached
        rwa [Store.cell?, Store.cells_settle] at cached
      · rintro _ _ ⟨⟩
  | @evict shared thread reached idle identity ih =>
      refine ih.advance rfl rfl ?_ ?_
      · intro other cell cached
        rw [Store.cell?_evict] at cached
        split at cached
        · cases cached
        · exact cached
      · rintro _ _ ⟨⟩
  | clear reached idle ih =>
      refine ih.advance rfl rfl ?_ ?_
      · rintro _ _ ⟨⟩
      · rintro _ _ ⟨⟩

omit [DecidableEq Thread] in
/-- A cell is made for one type only. -/
theorem Allocated.identity_eq
    (allocated : Allocated types shared)
    {identity other : Identity}
    (made : (identity, cell) ∈ shared.history.made)
    (madeOther : (other, cell) ∈ shared.history.made) :
    identity = other :=
  congrArg Prod.fst (List.inj_on_of_nodup_map allocated.made_nodup made madeOther rfl)

/-- Of the cells made for a type all have been taken out but the one in the store. -/
theorem Reachable.count_made
    (reached : Reachable types shared)
    (identity : Identity) :
    (shared.history.made.map Prod.fst).count identity =
      shared.history.removals identity +
        if (shared.store.cell? identity).isSome then 1 else 0 := by
  induction reached with
  | start => rfl
  | @obtain shared thread type reached idle member ih =>
      cases found : shared.store.cell? type.identity with
      | some cell =>
          rw [obtain_of_cached found, advance, made_concat, removals_concat]
          simp [StoreMoment.made?, StoreMoment.removes, found, ih]
      | none =>
          rw [obtain_of_missing found, advance, made_concat, removals_concat, Store.cell?_obtain]
          by_cases same : identity = type.identity
          · subst same
            simp [StoreMoment.made?, StoreMoment.removes, found, ih]
          · simp [StoreMoment.made?, StoreMoment.removes, found, ih, same, Ne.symm same]
  | @settle shared thread type cell reached pending ih =>
      have cells :
          (shared.store.settle cell type).2.cell? identity = shared.store.cell? identity := by
        rw [Store.cell?, Store.cells_settle, Store.cell?]
      rw [SharedStore.settle, advance, made_concat, removals_concat, cells]
      simp [StoreMoment.made?, StoreMoment.removes, ih]
  | @evict shared thread reached idle removed ih =>
      rw [SharedStore.evict, advance, made_concat, removals_concat, Store.cell?_evict]
      by_cases same : identity = removed
      · subst same
        simp [StoreMoment.made?, StoreMoment.removes, ih]
      · simp [StoreMoment.made?, StoreMoment.removes, ih, same]
  | @clear shared thread reached idle ih =>
      have emptied : shared.store.clear.cell? identity = none := rfl
      rw [SharedStore.clear, advance, made_concat, removals_concat, emptied,
        show StoreMoment.made? ⟨shared.store, thread, .cleared⟩ = none from rfl, Option.toList_none,
        List.append_nil, ih]
      rfl

end Cells

/-! ## Cells that are filled -/

section Contents

variable
  {types : Set (TaskType Body)}
  {shared : SharedStore Body Thread}
  {thread : Thread}
  {type : TaskType Body}
  {cell : CellId}

theorem settle_of_filled
    {result : ClassInfoResult Body}
    (filled : shared.store.content? cell = some result) :
    shared.settle thread type cell =
      shared.advance thread (.settled type ⟨result, cell, []⟩) shared.store none := by
  rw [settle, Store.settle_of_filled _ _ filled]

theorem settle_of_unfilled (unfilled : shared.store.content? cell = none) :
    shared.settle thread type cell =
      shared.advance thread
        (.settled type
          ⟨ClassInfo.build type, cell, [Store.built type (ClassInfo.build type)]⟩)
        { shared.store with
          settled := shared.store.settled ++ [(cell, ClassInfo.build type)]
          constructions := shared.store.constructions + 1 }
        none := by
  rw [settle, Store.settle_of_unfilled _ _ unfilled]

/-- Every cell was filled with the class info of the type that it was made for, and no cell was
filled twice; every lookup that is complete has read what its cell was filled with. -/
structure Filled (types : Set (TaskType Body)) (shared : SharedStore Body Thread) : Prop where
  counted : shared.store.constructions = shared.history.filled.length
  settled_eq : shared.store.settled.map Prod.fst = shared.history.filled.map Prod.snd
  filled_nodup : (shared.history.filled.map Prod.snd).Nodup
  filled_made : shared.history.filled ⊆ shared.history.made
  content_built :
    ∀ {cell result},
      shared.store.content? cell = some result →
        ∃ origin, ∃ type ∈ types,
          result = ClassInfo.build type ∧
            shared.history.At origin (StoreMoment.Builds type cell result)
  once :
    ∀ {first second type other cell result result'},
      shared.history.At first (StoreMoment.Builds type cell result) →
        shared.history.At second (StoreMoment.Builds other cell result') → first = second
  completed :
    ∀ {position type found},
      shared.history.At position (StoreMoment.Completes type found) →
        type ∈ types ∧
          found.result = ClassInfo.build type ∧
          ∃ origin ≤ position,
            shared.history.At origin (StoreMoment.Builds type found.cell found.result)

/-- A step that fills no cell keeps this, if a lookup that it completes has read a filled one. -/
theorem Filled.advance
    (filled : Filled types shared)
    {act : StoreAct Body}
    {store : Store Body}
    {pending : Option (TaskType Body × CellId)}
    (nothingFilled : StoreMoment.filled? ⟨shared.store, thread, act⟩ = none)
    (sameSettled : store.settled = shared.store.settled)
    (sameCount : store.constructions = shared.store.constructions)
    (reads :
      ∀ {type found},
        act = .settled type found →
          type ∈ types ∧
            found.result = ClassInfo.build type ∧
            ∃ origin,
              shared.history.At origin (StoreMoment.Builds type found.cell found.result)) :
    Filled types (shared.advance thread act store pending) := by
  let moment : StoreMoment Body Thread := ⟨shared.store, thread, act⟩
  have same : StoreHistory.filled (shared.history ++ [moment]) = shared.history.filled := by
    rw [filled_concat, nothingFilled, Option.toList_none, List.append_nil]
  have builtBefore
      {position : Nat} {type : TaskType Body} {cell : CellId} {result : ClassInfoResult Body}
      (built : At (shared.history ++ [moment]) position (StoreMoment.Builds type cell result)) :
      shared.history.At position (StoreMoment.Builds type cell result) := by
    rcases (at_concat_iff ..).1 built with before | ⟨-, found, -, -, fills⟩
    · exact before
    · cases nothingFilled.symm.trans fills
  constructor
  case counted => exact sameCount.trans (filled.counted.trans (congrArg List.length same.symm))
  case settled_eq =>
    rw [SharedStore.advance, same, sameSettled]
    exact filled.settled_eq
  case filled_nodup =>
    rw [SharedStore.advance, same]
    exact filled.filled_nodup
  case filled_made =>
    rw [SharedStore.advance, same]
    exact List.Subset.trans filled.filled_made (made_subset_concat ..)
  case content_built =>
    intro cell result content
    rw [SharedStore.advance, Store.content?, sameSettled] at content
    rcases filled.content_built content with ⟨origin, builder, member, builds, built⟩
    exact ⟨origin, builder, member, builds, built.concat moment⟩
  case once =>
    intro first second type other cell result result' built builtOther
    exact filled.once (builtBefore built) (builtBefore builtOther)
  case completed =>
    intro position type found completes
    rcases (at_concat_iff ..).1 completes with before | ⟨rfl, now⟩
    · rcases filled.completed before with ⟨member, builds, origin, earlier, built⟩
      exact ⟨member, builds, origin, earlier, built.concat moment⟩
    · rcases reads now with ⟨member, builds, origin, built⟩
      exact ⟨member, builds, origin, built.lt_length.le, built.concat moment⟩

/-- A lookup that finds its cell filled reads it. -/
theorem Filled.read
    (distinct : types.InjOn TaskType.identity)
    (filled : Filled types shared)
    (allocated : Allocated types shared)
    (pending : shared.pending thread = some (type, cell))
    {result : ClassInfoResult Body}
    (content : shared.store.content? cell = some result) :
    Filled types (shared.settle thread type cell) := by
  rw [settle_of_filled content]
  refine filled.advance ?_ rfl rfl ?_
  · simp only [StoreMoment.filled?, content]
  · rintro _ _ ⟨⟩
    rcases filled.content_built content with ⟨origin, builder, member, builds, built⟩
    rcases allocated.pending_made pending with ⟨known, made⟩
    -- the cell was made for the type of this lookup, and for the one whose class info it holds
    have builtCell : (builder.identity, cell) ∈ shared.history.filled :=
      (mem_filled_iff _).2 ⟨origin, builder, result, rfl, built⟩
    have sameType : builder = type :=
      distinct member known (allocated.identity_eq (filled.filled_made builtCell) made)
    subst sameType
    exact ⟨known, builds, origin, built⟩

/-- A lookup that finds its cell unfilled fills it. -/
theorem Filled.build
    (filled : Filled types shared)
    (allocated : Allocated types shared)
    (pending : shared.pending thread = some (type, cell))
    (unfilled : shared.store.content? cell = none) :
    Filled types (shared.settle thread type cell) := by
  rw [settle_of_unfilled unfilled]
  rcases allocated.pending_made pending with ⟨known, made⟩
  let found : Store.Found Body :=
    ⟨ClassInfo.build type, cell, [Store.built type (ClassInfo.build type)]⟩
  let moment : StoreMoment Body Thread := ⟨shared.store, thread, .settled type found⟩
  have fills : moment.filled? = some (type.identity, cell) := by
    simp only [moment, found, StoreMoment.filled?, unfilled]
  have grown :
      StoreHistory.filled (shared.history ++ [moment]) =
        shared.history.filled ++ [(type.identity, cell)] := by
    rw [filled_concat, fills, Option.toList_some]
  have fresh : cell ∉ shared.history.filled.map Prod.snd := by
    rw [← filled.settled_eq, ← Store.isSome_under_iff,
      show Store.under cell shared.store.settled = none from unfilled]
    exact Bool.false_ne_true
  have unbuilt
      {position : Nat} {other : TaskType Body} {result : ClassInfoResult Body} :
      ¬ shared.history.At position (StoreMoment.Builds other cell result) := by
    intro built
    have old : (other.identity, cell) ∈ shared.history.filled :=
      (mem_filled_iff _).2 ⟨position, other, result, rfl, built⟩
    exact fresh (List.mem_map_of_mem old)
  have builds : moment.Builds type cell (ClassInfo.build type) := ⟨found, rfl, rfl, fills⟩
  have builtNow :
      At (shared.history ++ [moment]) shared.history.length
        (StoreMoment.Builds type cell (ClassInfo.build type)) :=
    (at_concat_iff ..).2 (.inr ⟨rfl, builds⟩)
  have cell_eq
      {other : TaskType Body} {cell' : CellId} {result : ClassInfoResult Body}
      (same : moment.Builds other cell' result) :
      cell' = cell := by
    rcases same with ⟨found', -, -, fills'⟩
    exact (congrArg Prod.snd (Option.some.inj (fills.symm.trans fills'))).symm
  constructor
  case counted =>
    rw [SharedStore.advance, grown, List.length_append, ← filled.counted]
    rfl
  case settled_eq =>
    rw [SharedStore.advance, grown, List.map_append, List.map_append, filled.settled_eq]
    rfl
  case filled_nodup =>
    rw [SharedStore.advance, grown, List.map_append, List.map_cons, List.map_nil,
      ← List.concat_eq_append]
    exact filled.filled_nodup.concat fresh
  case filled_made =>
    rw [SharedStore.advance, grown]
    intro entry member
    rcases List.mem_append.1 member with old | new
    · exact made_subset_concat _ _ (filled.filled_made old)
    · rw [List.mem_singleton.1 new]
      exact made_subset_concat _ _ made
  case content_built =>
    intro other result content
    rw [SharedStore.advance, Store.content?, Store.under_concat, Option.or_eq_some_iff] at content
    rcases content with before | ⟨-, now⟩
    · rcases filled.content_built before with ⟨origin, builder, member, eq, built⟩
      exact ⟨origin, builder, member, eq, built.concat moment⟩
    · split at now
      case isTrue same =>
        cases now
        rw [same]
        exact ⟨_, type, known, rfl, builtNow⟩
      case isFalse => cases now
  case once =>
    intro first second builder other cell' result result' built builtOther
    rcases (at_concat_iff ..).1 built with before | ⟨rfl, now⟩
    · rcases (at_concat_iff ..).1 builtOther with beforeOther | ⟨rfl, nowOther⟩
      · exact filled.once before beforeOther
      · rw [cell_eq nowOther] at before
        exact absurd before unbuilt
    · rcases (at_concat_iff ..).1 builtOther with beforeOther | ⟨rfl, nowOther⟩
      · rw [cell_eq now] at beforeOther
        exact absurd beforeOther unbuilt
      · rfl
  case completed =>
    intro position looked found' completes
    rcases (at_concat_iff ..).1 completes with before | ⟨rfl, now⟩
    · rcases filled.completed before with ⟨member, eq, origin, earlier, built⟩
      exact ⟨member, eq, origin, earlier, built.concat moment⟩
    · cases now
      exact ⟨known, rfl, _, le_rfl, builtNow⟩

theorem Reachable.filled
    (distinct : types.InjOn TaskType.identity)
    (reached : Reachable types shared) :
    Filled types shared := by
  induction reached with
  | start =>
      refine ⟨rfl, rfl, List.nodup_nil, List.Subset.refl _, nofun, ?_, ?_⟩
      · rintro _ _ _ _ _ _ _ ⟨_, ⟨⟩, _⟩
      · rintro _ _ _ ⟨_, ⟨⟩, _⟩
  | @obtain shared thread type reached idle member ih =>
      cases found : shared.store.cell? type.identity with
      | some cell =>
          rw [obtain_of_cached found]
          exact ih.advance rfl rfl rfl nofun
      | none =>
          rw [obtain_of_missing found, Store.obtain_of_missing _ _ found]
          exact ih.advance rfl rfl rfl nofun
  | @settle shared thread type cell reached pending ih =>
      cases content : shared.store.content? cell with
      | some result => exact ih.read distinct reached.allocated pending content
      | none => exact ih.build reached.allocated pending content
  | evict reached idle identity ih => exact ih.advance rfl rfl rfl nofun
  | clear reached idle ih => exact ih.advance rfl rfl rfl nofun

end Contents

/-! ## Lookups and their first steps -/

section Lookups

variable
  {types : Set (TaskType Body)}
  {shared : SharedStore Body Thread}
  {thread : Thread}

/-- Every lookup has taken its first step, and its thread has done nothing else since. -/
structure Attributed (shared : SharedStore Body Thread) : Prop where
  pending_obtained :
    ∀ {thread type cell},
      shared.pending thread = some (type, cell) →
        ∃ began,
          shared.history.At began (fun moment =>
              moment.thread = thread ∧ moment.Obtains type cell) ∧
            ∀ later, began < later →
              ¬ shared.history.At later fun moment => moment.thread = thread
  completed_obtained :
    ∀ {position thread type found},
      shared.history.At position (fun moment =>
          moment.thread = thread ∧ moment.Completes type found) →
        ∃ began < position,
          shared.history.At began (fun moment =>
              moment.thread = thread ∧ moment.Obtains type found.cell) ∧
            ∀ between, began < between → between < position →
              ¬ shared.history.At between fun moment => moment.thread = thread

theorem Attributed.advance
    (attributed : Attributed shared)
    {act : StoreAct Body}
    {store : Store Body}
    {pending : Option (TaskType Body × CellId)}
    (obtains : ∀ {type cell}, pending = some (type, cell) → act = .obtained type cell)
    (completes :
      ∀ {type found},
        act = .settled type found → shared.pending thread = some (type, found.cell)) :
    Attributed (shared.advance thread act store pending) := by
  let moment : StoreMoment Body Thread := ⟨shared.store, thread, act⟩
  constructor
  case pending_obtained =>
    intro other type cell waiting
    by_cases self : other = thread
    · subst self
      rw [pending_advance_self] at waiting
      refine ⟨shared.history.length, (at_concat_iff ..).2 (.inr ⟨rfl, rfl, obtains waiting⟩), ?_⟩
      intro later after happens
      have bounded := happens.lt_length
      rw [SharedStore.advance, List.length_append, List.length_singleton] at bounded
      omega
    · rw [pending_advance_other shared thread self] at waiting
      rcases attributed.pending_obtained waiting with ⟨began, obtained, idle⟩
      refine ⟨began, obtained.concat moment, ?_⟩
      intro later after happens
      rcases (at_concat_iff ..).1 happens with before | ⟨-, same⟩
      · exact idle later after before
      · exact self same.symm
  case completed_obtained =>
    intro position other type found happens
    rcases (at_concat_iff ..).1 happens with before | ⟨rfl, same, now⟩
    · have inside := before.lt_length
      rcases attributed.completed_obtained before with ⟨began, earlier, obtained, idle⟩
      refine ⟨began, earlier, obtained.concat moment, ?_⟩
      intro between after until' happens
      rcases (at_concat_iff ..).1 happens with before | ⟨rfl, -⟩
      · exact idle between after until' before
      · omega
    · subst same
      rcases attributed.pending_obtained (completes now) with ⟨began, obtained, idle⟩
      refine ⟨began, obtained.lt_length, obtained.concat moment, ?_⟩
      intro between after until' happens
      rcases (at_concat_iff ..).1 happens with before | ⟨rfl, -⟩
      · exact idle between after before
      · omega

theorem Reachable.attributed (reached : Reachable types shared) : Attributed shared := by
  induction reached with
  | start => exact ⟨nofun, by rintro _ _ _ _ ⟨_, ⟨⟩, _⟩⟩
  | obtain reached idle member ih =>
      refine ih.advance ?_ nofun
      rintro _ _ ⟨⟩
      rfl
  | settle reached pending ih =>
      refine ih.advance nofun ?_
      rintro _ _ ⟨⟩
      rwa [Store.cell_settle]
  | evict reached idle identity ih => exact ih.advance nofun nofun
  | clear reached idle ih => exact ih.advance nofun nofun

end Lookups

/-! ## Counting -/

/-- What holds of a store that threads share, whatever they have done to it. -/
structure BuiltOnce (shared : SharedStore Body Thread) : Prop where
  /-- No cell is filled twice. -/
  once :
    ∀ {first second type other cell result result'},
      shared.history.At first (StoreMoment.Builds type cell result) →
        shared.history.At second (StoreMoment.Builds other cell result') → first = second
  /-- A lookup gives what building the class info of its type gives, and has read it from the cell
  that its thread had obtained for that type just before. -/
  lookup :
    ∀ {position thread type found},
      shared.history.At position (fun moment =>
          moment.thread = thread ∧ moment.Completes type found) →
        found.result = ClassInfo.build type ∧
          ∃ began < position,
            shared.history.At began (fun moment =>
                moment.thread = thread ∧ moment.Obtains type found.cell) ∧
              ∀ between, began < between → between < position →
                ¬ shared.history.At between fun moment => moment.thread = thread
  /-- Lookups that have obtained the same cell give the same object. -/
  object :
    ∀ {first second type other found found'},
      shared.history.At first (StoreMoment.Completes type found) →
        shared.history.At second (StoreMoment.Completes other found') →
        found.cell = found'.cell →
          found.result = found'.result ∧
            ∃ origin,
              origin ≤ first ∧
                origin ≤ second ∧
                shared.history.At origin (StoreMoment.Builds type found.cell found.result)
  /-- The store counts how often class info was built. -/
  counted : shared.store.constructions = shared.history.filled.length
  /-- Class info of a type is built at most once more than its cell is taken out. -/
  bounded :
    ∀ identity,
      (shared.history.filled.map Prod.fst).count identity ≤
        1 + shared.history.removals identity
  /-- As long as no cell is taken out, class info is built once for each type that was looked up. -/
  undisturbed :
    (∀ identity, shared.history.removals identity = 0) →
      shared.store.constructions =
        { type | ∃ position found,
            shared.history.At position (StoreMoment.Completes type found) }.ncard

section Counting

variable
  {types : Set (TaskType Body)}
  {shared : SharedStore Body Thread}

theorem Reachable.count_filled_le
    (distinct : types.InjOn TaskType.identity)
    (reached : Reachable types shared)
    (identity : Identity) :
    (shared.history.filled.map Prod.fst).count identity ≤
      1 + shared.history.removals identity := by
  have filled := reached.filled distinct
  have among : shared.history.filled.Subperm shared.history.made :=
    List.subperm_of_subset (List.Nodup.of_map Prod.snd filled.filled_nodup) filled.filled_made
  calc
    (shared.history.filled.map Prod.fst).count identity ≤
        (shared.history.made.map Prod.fst).count identity := by
      simp only [List.count_eq_countP, List.countP_map]
      exact among.countP_le _
    _ = shared.history.removals identity +
          if (shared.store.cell? identity).isSome then 1 else 0 := reached.count_made identity
    _ ≤ 1 + shared.history.removals identity := by split <;> omega

/-- The types for which class info was built are those that were looked up. -/
theorem Reachable.mem_filled_iff
    (distinct : types.InjOn TaskType.identity)
    (reached : Reachable types shared)
    (identity : Identity) :
    identity ∈ shared.history.filled.map Prod.fst ↔
      identity ∈ TaskType.identity ''
        { type | ∃ position found,
            shared.history.At position (StoreMoment.Completes type found) } := by
  constructor
  · intro member
    rcases List.mem_map.1 member with ⟨entry, inFilled, rfl⟩
    rcases (StoreHistory.mem_filled_iff entry).1 inFilled with
      ⟨position, type, result, same, moment, present, found, completes, -⟩
    exact ⟨type, ⟨position, found, moment, present, completes⟩, same.symm⟩
  · rintro ⟨type, ⟨position, found, completes⟩, rfl⟩
    rcases (reached.filled distinct).completed completes with ⟨-, -, origin, -, built⟩
    exact List.mem_map.2
      ⟨(type.identity, found.cell),
        (StoreHistory.mem_filled_iff _).2 ⟨origin, type, found.result, rfl, built⟩, rfl⟩

theorem Reachable.constructions_eq
    (distinct : types.InjOn TaskType.identity)
    (reached : Reachable types shared)
    (untouched : ∀ identity, shared.history.removals identity = 0) :
    shared.store.constructions =
      { type | ∃ position found,
          shared.history.At position (StoreMoment.Completes type found) }.ncard := by
  have filled := reached.filled distinct
  have known :
      { type | ∃ position found,
          shared.history.At position (StoreMoment.Completes type found) } ⊆ types := by
    rintro type ⟨position, found, completes⟩
    exact (filled.completed completes).1
  have single : (shared.history.filled.map Prod.fst).Nodup := by
    rw [List.nodup_iff_count_le_one]
    intro identity
    have bounded := reached.count_filled_le distinct identity
    rwa [untouched] at bounded
  have looked :
      TaskType.identity ''
          { type | ∃ position found,
              shared.history.At position (StoreMoment.Completes type found) } =
        ((shared.history.filled.map Prod.fst).toFinset : Set Identity) := by
    ext identity
    rw [Finset.mem_coe, List.mem_toFinset, reached.mem_filled_iff distinct]
  rw [← (distinct.mono known).ncard_image, looked, Set.ncard_coe_finset,
    List.toFinset_card_of_nodup single, List.length_map, filled.counted]

end Counting

/-- Whatever threads do to a store that they share, class info is built at most once in each cell,
and each lookup gives what was built in the cell that it obtained. -/
theorem Reachable.builtOnce
    {types : Set (TaskType Body)}
    (distinct : types.InjOn TaskType.identity)
    {shared : SharedStore Body Thread}
    (reached : Reachable types shared) :
    BuiltOnce shared := by
  have filled := reached.filled distinct
  constructor
  case once => exact filled.once
  case lookup =>
    rintro position thread type found ⟨moment, present, same, completes⟩
    refine ⟨(filled.completed ⟨moment, present, completes⟩).2.1, ?_⟩
    exact reached.attributed.completed_obtained ⟨moment, present, same, completes⟩
  case object =>
    intro first second type other found found' completes completes' sameCell
    rcases filled.completed completes with ⟨member, builds, origin, earlier, built⟩
    rcases filled.completed completes' with ⟨member', builds', origin', earlier', built'⟩
    rw [← sameCell] at built'
    have sameOrigin : origin = origin' := filled.once built built'
    subst sameOrigin
    refine ⟨?_, origin, earlier, earlier', built⟩
    rcases built with ⟨moment, present, built, act, result, -⟩
    rcases built' with ⟨moment', present', built', act', result', -⟩
    cases present.symm.trans present'
    rw [← result, ← result', (StoreAct.settled.inj (act.symm.trans act')).2]
  case counted => exact filled.counted
  case bounded => exact reached.count_filled_le distinct
  case undisturbed => exact reached.constructions_eq distinct

/-! ## A lookup overtaken by an eviction -/

namespace Overtaken

/-- A type without actions. -/
def sheet : TaskType Unit := ⟨⟨⟨1⟩, "Sheet", true, false, []⟩, []⟩

/-- One thread has obtained the cell of the type when another evicts it and looks the type up; the
first one then completes its lookup in the cell that was taken out. -/
def overtaken : SharedStore Unit Bool :=
  ((((start.obtain false sheet).evict true sheet.identity).obtain true sheet).settle true sheet
    1).settle false sheet 0

/-- The class info is built twice, and the lookup that was overtaken still gives it. -/
theorem built_in_both_cells :
    Set.InjOn TaskType.identity {sheet} ∧
      Reachable {sheet} overtaken ∧
      overtaken.store.constructions = 2 ∧
      overtaken.history.removals sheet.identity = 1 ∧
      (overtaken.history.filled.map Prod.fst).count sheet.identity ≤ 2 ∧
      overtaken.store.cell? sheet.identity = some 1 ∧
      ∃ found,
        overtaken.history.At 4 (StoreMoment.Completes sheet found) ∧
          found.cell = 0 ∧
          found.result = ClassInfo.build sheet := by
  have distinct : Set.InjOn TaskType.identity {sheet} := Set.injOn_singleton _ _
  have obtained : Reachable {sheet} (start.obtain false sheet : SharedStore Unit Bool) :=
    Reachable.start.obtain rfl rfl
  let evictedStore : SharedStore Unit Bool :=
    (start.obtain false sheet).evict true sheet.identity
  have evicted : Reachable {sheet} evictedStore := obtained.evict rfl sheet.identity
  have again : Reachable {sheet} (evictedStore.obtain true sheet) := evicted.obtain rfl rfl
  have settled : Reachable {sheet} ((evictedStore.obtain true sheet).settle true sheet 1) :=
    again.settle rfl
  have reached : Reachable {sheet} overtaken := settled.settle rfl
  have builtOnce := reached.builtOnce distinct
  let found : Store.Found Unit :=
    ⟨ClassInfo.build sheet, 0, [Store.built sheet (ClassInfo.build sheet)]⟩
  have completes :
      overtaken.history.At 4 fun moment =>
        moment.thread = false ∧ moment.Completes sheet found :=
    ⟨_, rfl, rfl, rfl⟩
  refine ⟨distinct, reached, rfl, rfl, builtOnce.bounded sheet.identity, rfl, found, ?_, rfl, ?_⟩
  · exact ⟨_, rfl, rfl⟩
  · exact (builtOnce.lookup completes).1

end Overtaken

end SharedStore

end TaskDispatch
