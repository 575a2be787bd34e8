import Mathlib.Data.Set.Card
import TaskDispatch.Action.Store

/-!
# A store as a memo table

What a store gives depends on the calls it has had: lookups of types, evictions and clears.  A type
is *remembered* after some calls if it was looked up and nothing took its cell out later; that is a
property of the list of calls alone.  The theorem `Store.memo_table` compares the store with it.  A
lookup always gives what building the class info anew would give, also where that is an error; class
info has been built once for each lookup of a type that was not remembered; the cached types are
those remembered; and two lookups of one type read one cell exactly if nothing between them took it
out.

Two types of one identity would share a cell, so the types that are looked up are told apart by
their identities.

What a store keeps is said in two steps.  The cells depend on the calls only, whatever is built into
them (`cell?_perform_eq_some_iff`).  That each of them holds the class info of its type is the
invariant `Store.Remembers`.
-/

namespace TaskDispatch

variable {Body : Type}

/-! ## Calls -/

/-- A call on a store. -/
inductive StoreCall (Body : Type) where
  | lookup (type : TaskType Body)
  | evict (identity : Identity)
  | clear

namespace StoreCall

/-- True of a lookup of a type of the identity. -/
def LooksUp (identity : Identity) : StoreCall Body → Prop
  | .lookup type => type.identity = identity
  | .evict _ => False
  | .clear => False

/-- True of a call after which no type of the identity is cached. -/
def Removes (identity : Identity) : StoreCall Body → Prop
  | .lookup _ => False
  | .evict identity' => identity' = identity
  | .clear => True

end StoreCall

/-- True if a type of the identity was looked up, and no later call has removed it. -/
def Remembered (calls : List (StoreCall Body)) (identity : Identity) : Prop :=
  ∃ earlier call later,
    calls = earlier ++ call :: later ∧
      call.LooksUp identity ∧
      ∀ other ∈ later, ¬ other.Removes identity

/-- The positions of the lookups of types that were not remembered at that moment. -/
def misses (calls : List (StoreCall Body)) : Set Nat :=
  { position |
    ∃ earlier type later,
      calls = earlier ++ .lookup type :: later ∧
        earlier.length = position ∧
        ¬ Remembered earlier type.identity }

/-- The last of some calls is either the one pointed at or one of those after it. -/
theorem concat_eq_append_cons
    {calls earlier later : List (StoreCall Body)}
    {call first : StoreCall Body}
    (parts : calls ++ [call] = earlier ++ first :: later) :
    calls = earlier ∧ call = first ∧ later = [] ∨
      ∃ between, calls = earlier ++ first :: between ∧ later = between ++ [call] := by
  rcases List.eq_nil_or_concat later with rfl | ⟨between, last, rfl⟩
  · rcases List.append_inj' parts rfl with ⟨same, sameLast⟩
    exact .inl ⟨same, List.singleton_injective sameLast, rfl⟩
  · rw [List.concat_eq_append, ← List.cons_append, ← List.append_assoc] at parts
    rcases List.append_inj' parts rfl with ⟨same, sameLast⟩
    have last_eq : call = last := List.singleton_injective sameLast
    exact .inr ⟨between, same, by rw [List.concat_eq_append, last_eq]⟩

theorem not_remembered_nil (identity : Identity) :
    ¬ Remembered ([] : List (StoreCall Body)) identity := by
  rintro ⟨earlier, call, later, parts, -⟩
  exact List.append_ne_nil_of_right_ne_nil earlier (List.cons_ne_nil call later) parts.symm

theorem remembered_concat_iff
    (calls : List (StoreCall Body))
    (call : StoreCall Body)
    (identity : Identity) :
    Remembered (calls ++ [call]) identity ↔
      call.LooksUp identity ∨ Remembered calls identity ∧ ¬ call.Removes identity := by
  constructor
  · rintro ⟨earlier, first, later, parts, looksUp, kept⟩
    rcases concat_eq_append_cons parts with ⟨-, rfl, -⟩ | ⟨between, same, rfl⟩
    · exact .inl looksUp
    · refine .inr ⟨⟨earlier, first, between, same, looksUp, ?_⟩, ?_⟩
      · intro other member
        exact kept other (List.mem_append_left _ member)
      · exact kept call (List.mem_append_right _ (List.mem_singleton_self call))
  · rintro (looksUp | ⟨⟨earlier, first, later, rfl, looksUp, kept⟩, keeps⟩)
    · exact ⟨calls, call, [], rfl, looksUp, fun other member => absurd member List.not_mem_nil⟩
    · refine ⟨earlier, first, later ++ [call], by simp, looksUp, ?_⟩
      intro other member
      rcases List.mem_append.1 member with member | member
      · exact kept other member
      · rwa [List.mem_singleton.1 member]

theorem misses_subset (calls : List (StoreCall Body)) : misses calls ⊆ Set.Iio calls.length := by
  rintro position ⟨earlier, type, later, rfl, rfl, -⟩
  rw [Set.mem_Iio, List.length_append, List.length_cons]
  omega

theorem misses_finite (calls : List (StoreCall Body)) : (misses calls).Finite :=
  (Set.finite_lt_nat calls.length).subset (misses_subset calls)

theorem length_notMem_misses (calls : List (StoreCall Body)) : calls.length ∉ misses calls :=
  fun member => lt_irrefl calls.length (misses_subset calls member)

theorem misses_concat
    (calls : List (StoreCall Body))
    (call : StoreCall Body) :
    misses (calls ++ [call]) =
      misses calls ∪
        { position |
          position = calls.length ∧
            ∃ type, call = .lookup type ∧ ¬ Remembered calls type.identity } := by
  ext position
  constructor
  · rintro ⟨earlier, type, later, parts, rfl, missing⟩
    rcases concat_eq_append_cons parts with ⟨rfl, looksUp, -⟩ | ⟨between, same, -⟩
    · exact .inr ⟨rfl, type, looksUp, missing⟩
    · exact .inl ⟨earlier, type, between, same, rfl, missing⟩
  · rintro (⟨earlier, type, later, rfl, rfl, missing⟩ | ⟨rfl, type, rfl, missing⟩)
    · exact ⟨earlier, type, later ++ [call], by simp, rfl, missing⟩
    · exact ⟨calls, type, [], rfl, rfl, missing⟩

/-- A lookup of a type that is not remembered is one more miss. -/
theorem ncard_misses_concat_of_miss
    {calls : List (StoreCall Body)}
    {type : TaskType Body}
    (missing : ¬ Remembered calls type.identity) :
    (misses (calls ++ [.lookup type])).ncard = (misses calls).ncard + 1 := by
  have inserted : misses (calls ++ [.lookup type]) = insert calls.length (misses calls) := by
    rw [misses_concat, Set.insert_eq, Set.union_comm]
    congr 1
    ext position
    constructor
    · rintro ⟨rfl, -⟩
      exact rfl
    · rintro rfl
      exact ⟨rfl, type, rfl, missing⟩
  rw [inserted, Set.ncard_insert_of_notMem (length_notMem_misses calls) (misses_finite calls)]

/-- Any other call is none. -/
theorem misses_concat_of_hit
    {calls : List (StoreCall Body)}
    {call : StoreCall Body}
    (hit : ∀ type, call = .lookup type → Remembered calls type.identity) :
    misses (calls ++ [call]) = misses calls := by
  rw [misses_concat, Set.union_eq_left]
  rintro position ⟨-, type, looksUp, missing⟩
  exact absurd (hit type looksUp) missing

/-! ## Entries of a list of pairs -/

namespace Store

section Pairs

variable {Key Value : Type} [DecidableEq Key]

theorem under_concat
    (key : Key)
    (pairs : List (Key × Value))
    (added : Key × Value) :
    under key (pairs ++ [added]) =
      (under key pairs).or (if key = added.1 then some added.2 else none) := by
  induction pairs with
  | nil => rfl
  | cons pair pairs ih =>
      rw [List.cons_append, under, under]
      split
      · rfl
      · exact ih

theorem under_filter_ne
    (key removed : Key)
    (pairs : List (Key × Value)) :
    under key (pairs.filter fun entry => entry.1 != removed) =
      if key = removed then none else under key pairs := by
  induction pairs with
  | nil => simp [under]
  | cons pair pairs ih =>
      by_cases same : pair.1 = removed
      · rw [List.filter_cons_of_neg (by simp [same]), ih, under]
        split
        · rfl
        · rw [if_neg (by rwa [same])]
      · rw [List.filter_cons_of_pos (by simp [same]), under, ih, under]
        split
        case isTrue first => rw [if_neg (by rwa [first])]
        case isFalse => rfl

theorem isSome_under_iff (key : Key) (pairs : List (Key × Value)) :
    (under key pairs).isSome ↔ key ∈ pairs.map Prod.fst := by
  induction pairs with
  | nil => simp [under]
  | cons pair pairs ih =>
      rw [under, List.map_cons, List.mem_cons]
      split
      case isTrue first => simp [first]
      case isFalse other => simp [other, ih]

end Pairs

/-! ## Cells -/

/-- What a call leaves of a store. -/
def perform (store : Store Body) : StoreCall Body → Store Body
  | .lookup type => (store.lookup type).2
  | .evict identity => (store.evict identity).2
  | .clear => store.clear

/-- A store that started empty, after some calls. -/
def after (calls : List (StoreCall Body)) : Store Body := calls.foldl perform empty

theorem after_append (earlier later : List (StoreCall Body)) :
    after (earlier ++ later) = later.foldl perform (after earlier) :=
  List.foldl_append

section Cells

variable (store : Store Body) (type : TaskType Body) (identity : Identity)

theorem cells_settle (cell : CellId) : (store.settle cell type).2.cells = store.cells := by
  rw [settle]
  split <;> rfl

theorem nextCell_settle (cell : CellId) :
    (store.settle cell type).2.nextCell = store.nextCell := by
  rw [settle]
  split <;> rfl

theorem cell_settle (cell : CellId) : (store.settle cell type).1.cell = cell := by
  rw [settle]
  split <;> rfl

theorem settle_of_filled
    {cell : CellId}
    {result : ClassInfoResult Body}
    (filled : store.content? cell = some result) :
    store.settle cell type = (⟨result, cell, []⟩, store) := by
  rw [settle, filled]

theorem settle_of_unfilled
    {cell : CellId}
    (unfilled : store.content? cell = none) :
    store.settle cell type =
      (⟨ClassInfo.build type, cell, [built type (ClassInfo.build type)]⟩,
        { store with
          settled := store.settled ++ [(cell, ClassInfo.build type)]
          constructions := store.constructions + 1 }) := by
  rw [settle, unfilled]

theorem obtain_of_cached {cell : CellId} (cached : store.cell? identity = some cell) :
    store.obtain identity = (cell, store) := by
  rw [obtain, cached]

theorem obtain_of_missing (missing : store.cell? identity = none) :
    store.obtain identity =
      (store.nextCell,
        { store with
          cells := store.cells ++ [(identity, store.nextCell)]
          nextCell := store.nextCell + 1 }) := by
  rw [obtain, missing]

theorem cell_obtain :
    (store.obtain identity).1 = (store.cell? identity).getD store.nextCell := by
  cases found : store.cell? identity with
  | none => rw [obtain_of_missing store identity found, Option.getD_none]
  | some cell => rw [obtain_of_cached store identity found, Option.getD_some]

/-- After its cell was obtained a type has it, and every other type has the cell it had. -/
theorem cell?_obtain (other : Identity) :
    (store.obtain identity).2.cell? other =
      if other = identity then some (store.obtain identity).1 else store.cell? other := by
  rw [cell_obtain]
  cases found : store.cell? identity with
  | none =>
      have absent : under identity store.cells = none := found
      rw [obtain_of_missing store identity found, cell?, under_concat]
      by_cases same : other = identity
      · rw [if_pos same, if_pos same, same, absent]
        rfl
      · rw [if_neg same, if_neg same, Option.or_none]
        rfl
  | some cell =>
      rw [obtain_of_cached store identity found]
      by_cases same : other = identity
      · rw [if_pos same, same, found]
        rfl
      · rw [if_neg same]

theorem nextCell_le_obtain : store.nextCell ≤ (store.obtain identity).2.nextCell := by
  cases found : store.cell? identity with
  | none =>
      rw [obtain_of_missing store identity found]
      exact Nat.le_succ store.nextCell
  | some cell => rw [obtain_of_cached store identity found]

/-- A lookup reads the cell of its type, or a new one. -/
theorem cell_lookup :
    (store.lookup type).1.cell = (store.cell? type.identity).getD store.nextCell := by
  rw [lookup, cell_settle, cell_obtain]

theorem cell?_lookup :
    (store.lookup type).2.cell? identity =
      if identity = type.identity then some (store.lookup type).1.cell
      else store.cell? identity := by
  have cells : (store.lookup type).2.cells = (store.obtain type.identity).2.cells :=
    cells_settle _ type _
  rw [cell?, cells, lookup, cell_settle]
  exact cell?_obtain store type.identity identity

theorem nextCell_le_lookup : store.nextCell ≤ (store.lookup type).2.nextCell := by
  rw [lookup, nextCell_settle]
  exact nextCell_le_obtain store type.identity

theorem cell?_evict (other : Identity) :
    (store.evict identity).2.cell? other =
      if other = identity then none else store.cell? other :=
  under_filter_ne other identity store.cells

theorem nextCell_le_perform (call : StoreCall Body) :
    store.nextCell ≤ (store.perform call).nextCell := by
  cases call with
  | lookup type => exact nextCell_le_lookup store type
  | evict identity => exact le_rfl
  | clear => exact le_rfl

/-- A type is cached after a call if it was looked up, or was cached before and not removed. -/
theorem isSome_cell?_perform_iff (call : StoreCall Body) :
    ((store.perform call).cell? identity).isSome ↔
      call.LooksUp identity ∨ (store.cell? identity).isSome ∧ ¬ call.Removes identity := by
  cases call with
  | lookup type =>
      rw [perform, cell?_lookup]
      by_cases same : identity = type.identity
      · simp [same, StoreCall.LooksUp]
      · simp [same, Ne.symm same, StoreCall.LooksUp, StoreCall.Removes]
  | evict removed =>
      rw [perform, cell?_evict]
      by_cases same : identity = removed
      · simp [same, StoreCall.LooksUp, StoreCall.Removes]
      · simp [same, Ne.symm same, StoreCall.LooksUp, StoreCall.Removes]
  | clear =>
      simp [perform, clear, cell?, under, StoreCall.LooksUp, StoreCall.Removes]

/-- A type has a cell made before a call exactly if it had it and the call does not remove it. -/
theorem cell?_perform_eq_some_iff
    {cell : CellId}
    (made : cell < store.nextCell)
    (call : StoreCall Body) :
    (store.perform call).cell? identity = some cell ↔
      store.cell? identity = some cell ∧ ¬ call.Removes identity := by
  cases call with
  | lookup type =>
      rw [perform, cell?_lookup, cell_lookup]
      by_cases same : identity = type.identity
      · subst same
        cases found : store.cell? type.identity with
        | none =>
            -- the cell made for the lookup is a new one
            have fresh : store.nextCell ≠ cell := Nat.ne_of_gt made
            simp [fresh]
        | some cell' => simp [StoreCall.Removes]
      · simp [same, StoreCall.Removes]
  | evict removed =>
      rw [perform, cell?_evict]
      by_cases same : identity = removed
      · simp [same, StoreCall.Removes]
      · simp [same, Ne.symm same, StoreCall.Removes]
  | clear => simp [perform, clear, cell?, under, StoreCall.Removes]

end Cells

/-- The same along a list of calls. -/
theorem cell?_performAll_eq_some_iff
    (identity : Identity)
    {cell : CellId}
    (calls : List (StoreCall Body)) :
    ∀ store : Store Body, cell < store.nextCell →
      ((calls.foldl perform store).cell? identity = some cell ↔
        store.cell? identity = some cell ∧ ∀ call ∈ calls, ¬ call.Removes identity) := by
  induction calls with
  | nil =>
      intro store made
      simp
  | cons call calls ih =>
      intro store made
      have madeStill := Nat.lt_of_lt_of_le made (nextCell_le_perform store call)
      rw [List.foldl_cons, ih _ madeStill, cell?_perform_eq_some_iff store identity made,
        List.forall_mem_cons, and_assoc]

theorem isSome_cell?_after_iff (calls : List (StoreCall Body)) (identity : Identity) :
    ((after calls).cell? identity).isSome ↔ Remembered calls identity := by
  induction calls using List.reverseRecOn with
  | nil =>
      have missing : ¬ Remembered ([] : List (StoreCall Body)) identity :=
        not_remembered_nil identity
      simp [after, empty, cell?, under, missing]
  | append_singleton calls call ih =>
      rw [after_append, List.foldl_cons, List.foldl_nil, isSome_cell?_perform_iff, ih,
        remembered_concat_iff]

/-! ## What the cells hold -/

/-- A store whose cells are all filled, each with the class info of its type. -/
structure Remembers (types : Set (TaskType Body)) (store : Store Body) : Prop where
  keys_nodup : (store.cells.map Prod.fst).Nodup
  cell_lt :
    ∀ {identity cell}, store.cell? identity = some cell → cell < store.nextCell
  settled_lt :
    ∀ {cell result}, store.content? cell = some result → cell < store.nextCell
  content_eq :
    ∀ type ∈ types, ∀ {cell},
      store.cell? type.identity = some cell → store.content? cell = some (ClassInfo.build type)

theorem remembers_empty (types : Set (TaskType Body)) : (empty : Store Body).Remembers types where
  keys_nodup := List.nodup_nil
  cell_lt := nofun
  settled_lt := nofun
  content_eq := nofun

namespace Remembers

variable {types : Set (TaskType Body)} {store : Store Body} {type : TaskType Body}

theorem content?_nextCell (remembers : store.Remembers types) :
    store.content? store.nextCell = none := by
  cases found : store.content? store.nextCell with
  | none => rfl
  | some result => exact absurd (remembers.settled_lt found) (lt_irrefl store.nextCell)

/-- A lookup of a cached type reads its class info and changes nothing. -/
theorem lookup_of_cached
    (remembers : store.Remembers types)
    (member : type ∈ types)
    {cell : CellId}
    (cached : store.cell? type.identity = some cell) :
    store.lookup type = (⟨ClassInfo.build type, cell, []⟩, store) := by
  rw [Store.lookup, obtain_of_cached store _ cached]
  exact settle_of_filled store type (remembers.content_eq type member cached)

/-- A lookup of any other type builds its class info into a new cell, and logs that. -/
theorem lookup_of_missing
    (remembers : store.Remembers types)
    (missing : store.cell? type.identity = none) :
    store.lookup type =
      (⟨ClassInfo.build type, store.nextCell, [built type (ClassInfo.build type)]⟩,
        { cells := store.cells ++ [(type.identity, store.nextCell)]
          settled := store.settled ++ [(store.nextCell, ClassInfo.build type)]
          nextCell := store.nextCell + 1
          constructions := store.constructions + 1 }) := by
  rw [Store.lookup, obtain_of_missing store _ missing]
  exact settle_of_unfilled _ type remembers.content?_nextCell

/-- A lookup gives what building the class info gives. -/
theorem result_lookup (remembers : store.Remembers types) (member : type ∈ types) :
    (store.lookup type).1.result = ClassInfo.build type := by
  cases found : store.cell? type.identity with
  | none => rw [remembers.lookup_of_missing found]
  | some cell => rw [remembers.lookup_of_cached member found]

theorem cell_lookup_lt (remembers : store.Remembers types) (member : type ∈ types) :
    (store.lookup type).1.cell < (store.lookup type).2.nextCell := by
  cases found : store.cell? type.identity with
  | none =>
      rw [remembers.lookup_of_missing found]
      exact Nat.lt_succ_self store.nextCell
  | some cell =>
      rw [remembers.lookup_of_cached member found]
      exact remembers.cell_lt found

theorem lookup
    (distinct : types.InjOn TaskType.identity)
    (remembers : store.Remembers types)
    (member : type ∈ types) :
    (store.lookup type).2.Remembers types := by
  cases missing : store.cell? type.identity with
  | some cell =>
      rw [remembers.lookup_of_cached member missing]
      exact remembers
  | none =>
      have cells := store.cell?_lookup type
      rw [remembers.lookup_of_missing missing] at cells ⊢
      have absent : type.identity ∉ store.cells.map Prod.fst := by
        rw [← isSome_under_iff, show under type.identity store.cells = none from missing]
        exact Bool.false_ne_true
      constructor
      case keys_nodup =>
        rw [List.map_append, List.map_cons, List.map_nil, ← List.concat_eq_append]
        exact remembers.keys_nodup.concat absent
      case cell_lt =>
        intro identity cell cached
        rw [cells] at cached
        split at cached
        · cases cached
          exact Nat.lt_succ_self store.nextCell
        · exact Nat.lt_succ_of_lt (remembers.cell_lt cached)
      case settled_lt =>
        intro cell result filled
        rw [content?, under_concat, Option.or_eq_some_iff] at filled
        rcases filled with filled | ⟨-, filled⟩
        · exact Nat.lt_succ_of_lt (remembers.settled_lt filled)
        · split at filled
          case isTrue same =>
            rw [same]
            exact Nat.lt_succ_self store.nextCell
          case isFalse => cases filled
      case content_eq =>
        intro other otherMember cell cached
        rw [cells] at cached
        rw [content?, under_concat]
        split at cached
        case isTrue same =>
          cases cached
          cases distinct otherMember member same
          have unfilled : under store.nextCell store.settled = none := remembers.content?_nextCell
          rw [unfilled, if_pos rfl, Option.none_or]
        case isFalse =>
          rw [show under cell store.settled = _ from remembers.content_eq other otherMember cached]
          rfl

/-- No call spoils a cell. -/
theorem perform
    (distinct : types.InjOn TaskType.identity)
    (remembers : store.Remembers types)
    {call : StoreCall Body}
    (known : ∀ type, call = .lookup type → type ∈ types) :
    (store.perform call).Remembers types := by
  cases call with
  | lookup type => exact remembers.lookup distinct (known type rfl)
  | evict identity =>
      have kept {other : Identity} {cell : CellId}
          (cached : (store.perform (.evict identity)).cell? other = some cell) :
          store.cell? other = some cell := by
        rw [Store.perform, cell?_evict] at cached
        split at cached
        · cases cached
        · exact cached
      constructor
      case keys_nodup => exact remembers.keys_nodup.sublist (List.filter_sublist.map Prod.fst)
      case cell_lt =>
        intro other cell cached
        exact remembers.cell_lt (kept cached)
      case settled_lt => exact remembers.settled_lt
      case content_eq =>
        intro type member cell cached
        exact remembers.content_eq type member (kept cached)
  | clear =>
      constructor
      case keys_nodup => exact List.nodup_nil
      case cell_lt => nofun
      case settled_lt => exact remembers.settled_lt
      case content_eq => nofun

end Remembers

/-! ## After some calls -/

section After

variable {types : Set (TaskType Body)} {calls : List (StoreCall Body)}

theorem remembers_after
    (distinct : types.InjOn TaskType.identity)
    (known : ∀ type, .lookup type ∈ calls → type ∈ types) :
    (after calls).Remembers types := by
  induction calls using List.reverseRecOn with
  | nil => exact remembers_empty types
  | append_singleton calls call ih =>
      have before := ih fun type member => known type (List.mem_append_left _ member)
      rw [after_append]
      apply before.perform distinct
      rintro type rfl
      exact known type (List.mem_append_right _ (List.mem_singleton_self _))

/-- Class info is built once for each miss. -/
theorem constructions_after
    (distinct : types.InjOn TaskType.identity)
    (known : ∀ type, .lookup type ∈ calls → type ∈ types) :
    (after calls).constructions = (misses calls).ncard := by
  induction calls using List.reverseRecOn with
  | nil =>
      have none : misses ([] : List (StoreCall Body)) = ∅ :=
        Set.subset_empty_iff.1 fun position member =>
          absurd (misses_subset [] member) (Nat.not_lt_zero position)
      rw [none, Set.ncard_empty]
      rfl
  | append_singleton calls call ih =>
      have knownBefore : ∀ type, .lookup type ∈ calls → type ∈ types :=
        fun type member => known type (List.mem_append_left _ member)
      have before := remembers_after distinct knownBefore
      rw [after_append, List.foldl_cons, List.foldl_nil]
      cases call with
      | lookup type =>
          have member : type ∈ types :=
            known type (List.mem_append_right _ (List.mem_singleton_self _))
          cases found : (after calls).cell? type.identity with
          | none =>
              have missing : ¬ Remembered calls type.identity := by
                rw [← isSome_cell?_after_iff, found]
                exact Bool.false_ne_true
              rw [ncard_misses_concat_of_miss missing, ← ih knownBefore, perform,
                before.lookup_of_missing found]
          | some cell =>
              have hit : Remembered calls type.identity := by
                rw [← isSome_cell?_after_iff, found]
                exact rfl
              rw [misses_concat_of_hit (by rintro _ ⟨⟩; exact hit), ← ih knownBefore, perform,
                before.lookup_of_cached member found]
      | evict identity =>
          rw [misses_concat_of_hit (by rintro _ ⟨⟩)]
          exact ih knownBefore
      | clear =>
          rw [misses_concat_of_hit (by rintro _ ⟨⟩)]
          exact ih knownBefore

/-- The size is the number of the types remembered. -/
theorem size_after
    (distinct : types.InjOn TaskType.identity)
    (known : ∀ type, .lookup type ∈ calls → type ∈ types) :
    (after calls).size = { identity | Remembered calls identity }.ncard := by
  have keys :
      { identity | Remembered calls identity } =
        (((after calls).cells.map Prod.fst).toFinset : Set Identity) := by
    ext identity
    rw [Set.mem_ofPred_eq, ← isSome_cell?_after_iff, cell?, isSome_under_iff]
    exact List.mem_toFinset.symm
  rw [keys, Set.ncard_coe_finset,
    List.toFinset_card_of_nodup (remembers_after distinct known).keys_nodup, List.length_map]
  rfl

/-- A later lookup of a type reads the cell of an earlier one unless it was taken out. -/
theorem cell_lookup_eq_iff
    (distinct : types.InjOn TaskType.identity)
    {earlier between : List (StoreCall Body)}
    {type : TaskType Body}
    (known : ∀ other, .lookup other ∈ earlier ++ .lookup type :: between → other ∈ types) :
    ((after (earlier ++ .lookup type :: between)).lookup type).1.cell =
        ((after earlier).lookup type).1.cell ↔
      ∀ call ∈ between, ¬ call.Removes type.identity := by
  have member : type ∈ types := known type (by simp)
  have before : (after earlier).Remembers types :=
    remembers_after distinct fun other present => known other (List.mem_append_left _ present)
  have made :
      ((after earlier).lookup type).1.cell < (after (earlier ++ [.lookup type])).nextCell := by
    rw [after_append]
    exact before.cell_lookup_lt member
  have cached :
      (after (earlier ++ [.lookup type])).cell? type.identity =
        some ((after earlier).lookup type).1.cell := by
    rw [after_append, List.foldl_cons, List.foldl_nil, perform, cell?_lookup, if_pos rfl]
  -- the later lookup is one more call on the store, after which its type has the cell it read
  have again :
      ((between ++ [StoreCall.lookup type]).foldl perform (after (earlier ++ [.lookup type]))).cell?
          type.identity =
        some ((after (earlier ++ .lookup type :: between)).lookup type).1.cell := by
    rw [← after_append, ← List.append_assoc, List.append_assoc earlier, List.singleton_append,
      after_append, List.foldl_cons, List.foldl_nil, perform, cell?_lookup, if_pos rfl]
  have kept := cell?_performAll_eq_some_iff type.identity (between ++ [.lookup type]) _ made
  rw [again, cached] at kept
  simpa [StoreCall.Removes, or_imp, forall_and] using kept

end After

/-- What a store gives is what a function of the types and the calls gives.  After any calls, on
types told apart by their identities:
* a lookup gives what building the class info of its type gives;
* class info has been built once for each lookup of a type not remembered at that moment;
* the size is the number of the types remembered;
* an eviction finds exactly the types remembered;
* a lookup reads the cell that an earlier lookup of its type read exactly if no call between the two
  has removed that type. -/
theorem memo_table
    (types : Set (TaskType Body))
    (distinct : types.InjOn TaskType.identity)
    (calls : List (StoreCall Body))
    (known : ∀ type, .lookup type ∈ calls → type ∈ types) :
    (∀ type ∈ types, ((after calls).lookup type).1.result = ClassInfo.build type) ∧
      (after calls).constructions = (misses calls).ncard ∧
      (after calls).size = { identity | Remembered calls identity }.ncard ∧
      (∀ identity, ((after calls).evict identity).1 = true ↔ Remembered calls identity) ∧
      ∀ earlier type between,
        calls = earlier ++ .lookup type :: between →
          (((after calls).lookup type).1.cell = ((after earlier).lookup type).1.cell ↔
            ∀ call ∈ between, ¬ call.Removes type.identity) := by
  have remembers : (after calls).Remembers types := remembers_after distinct known
  refine ⟨?result, ?constructions, ?size, ?evict, ?cell⟩
  case result =>
    intro type member
    exact remembers.result_lookup member
  case constructions => exact constructions_after distinct known
  case size => exact size_after distinct known
  case evict =>
    intro identity
    exact isSome_cell?_after_iff calls identity
  case cell =>
    rintro earlier type between rfl
    exact cell_lookup_eq_iff distinct known

/-! ## A valid and an invalid type -/

namespace TwoTypes

/-- A type without actions. -/
def valid : TaskType Unit := ⟨⟨⟨1⟩, "Copy", true, false, []⟩, []⟩

/-- A type with a static action. -/
def invalid : TaskType Unit := ⟨⟨⟨2⟩, "Pack", true, false, [⟨"pack", true, [], ()⟩]⟩, []⟩

/-- Both are looked up; then the invalid one is evicted, and both are looked up again. -/
def calls : List (StoreCall Unit) :=
  [.lookup valid, .lookup invalid, .evict ⟨2⟩, .lookup valid, .lookup invalid]

/-- The invalid type is built twice and refused each time, the valid one once, and both are cached
in the end. -/
theorem invalid_built_twice :
    Set.InjOn TaskType.identity {valid, invalid} ∧
      (∀ type, .lookup type ∈ calls → type ∈ ({valid, invalid} : Set (TaskType Unit))) ∧
      ((after calls).lookup invalid).1.result = .error (.staticMethod "Pack" "pack") ∧
      (misses calls).ncard = 3 ∧
      { identity | Remembered calls identity }.ncard = 2 ∧
      Remembered calls invalid.identity ∧
      ((after calls).lookup valid).1.cell = ((after []).lookup valid).1.cell := by
  have distinct : Set.InjOn TaskType.identity {valid, invalid} := by
    rintro _ (rfl | rfl) _ (rfl | rfl) same
    · rfl
    · exact absurd same (by decide)
    · exact absurd same (by decide)
    · rfl
  have known :
      ∀ type, .lookup type ∈ calls → type ∈ ({valid, invalid} : Set (TaskType Unit)) := by
    intro type member
    have looked : type = valid ∨ type = invalid ∨ type = valid := by
      simpa [calls, or_comm] using member
    rcases looked with rfl | rfl | rfl
    exacts [.inl rfl, .inr rfl, .inl rfl]
  rcases memo_table {valid, invalid} distinct calls known with
    ⟨result, constructions, size, evict, cell⟩
  refine ⟨distinct, known, ?_, ?_, ?_, ?_, ?_⟩
  · exact (result invalid (.inr rfl)).trans rfl
  · exact constructions.symm.trans rfl
  · exact size.symm.trans rfl
  · exact (evict invalid.identity).1 rfl
  · refine (cell [] valid _ rfl).2 ?_
    simp [StoreCall.Removes, valid, TaskType.identity]

end TwoTypes

end Store

end TaskDispatch
