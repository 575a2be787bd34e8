import TaskDispatch.Proofs.Action.Memo

/-!
# A store with open lookups

A lookup takes two steps.  Other lookups may come between them, and find the cell of a type before
it is filled.  As long as no cell is taken out, a filled cell of a type holds the class info of that
type, and a cell that is not filled belongs to one type only: the store `Recalls` its types.

`BuiltSince` lists the types whose class info was built since a moment; none of them is built again,
because its cell is filled.
-/

namespace TaskDispatch.Store

variable {Body : Type} {types : Set (TaskType Body)} {store : Store Body} {type : TaskType Body}

/-- A store that gives each of these types its own class info, if it gives it any. -/
structure Recalls (types : Set (TaskType Body)) (store : Store Body) : Prop where
  cell_lt :
    ∀ {identity cell}, store.cell? identity = some cell → cell < store.nextCell
  settled_lt :
    ∀ {cell result}, store.content? cell = some result → cell < store.nextCell
  content_eq :
    ∀ type ∈ types, ∀ {cell result},
      store.cell? type.identity = some cell → store.content? cell = some result →
        result = ClassInfo.build type
  identity_eq :
    ∀ type ∈ types, ∀ other ∈ types, ∀ {cell},
      store.cell? type.identity = some cell → store.cell? other.identity = some cell →
        store.content? cell = none → type.identity = other.identity

theorem Remembers.recalls (remembers : store.Remembers types) : store.Recalls types where
  cell_lt := remembers.cell_lt
  settled_lt := remembers.settled_lt
  content_eq := by
    intro type member cell result cached filled
    exact Option.some.inj (filled.symm.trans (remembers.content_eq type member cached))
  identity_eq := by
    intro type member other _ cell cached _ unfilled
    exact nomatch unfilled.symm.trans (remembers.content_eq type member cached)

/-! ## The steps of a lookup -/

theorem content?_obtain (store : Store Body) (identity : Identity) (cell : CellId) :
    (store.obtain identity).2.content? cell = store.content? cell := by
  cases found : store.cell? identity with
  | none =>
      rw [obtain_of_missing store identity found]
      rfl
  | some cached => rw [obtain_of_cached store identity found]

theorem constructions_obtain (store : Store Body) (identity : Identity) :
    (store.obtain identity).2.constructions = store.constructions := by
  cases found : store.cell? identity with
  | none => rw [obtain_of_missing store identity found]
  | some cached => rw [obtain_of_cached store identity found]

theorem cell?_settle
    (store : Store Body)
    (type : TaskType Body)
    (cell : CellId)
    (identity : Identity) :
    (store.settle cell type).2.cell? identity = store.cell? identity := by
  rw [cell?, cells_settle, cell?]

/-- A cell that is filled holds the class info of the type, and every other cell what it held. -/
theorem content?_settle_of_unfilled
    {cell : CellId}
    (unfilled : store.content? cell = none)
    (type : TaskType Body)
    (other : CellId) :
    (store.settle cell type).2.content? other =
      if other = cell then some (ClassInfo.build type) else store.content? other := by
  rw [settle_of_unfilled store type unfilled, content?, under_concat]
  by_cases same : other = cell
  · have absent : under other store.settled = none := same ▸ unfilled
    rw [if_pos same, if_pos same, absent, Option.none_or]
  · rw [if_neg same, if_neg same, Option.or_none, content?]

/-- A cell stays the cell of its type while cells are obtained. -/
theorem cell?_obtain_of_cached
    {identity : Identity}
    {cell : CellId}
    (cached : store.cell? identity = some cell)
    (other : Identity) :
    (store.obtain other).2.cell? identity = some cell := by
  rw [cell?_obtain]
  split
  case isTrue same => rw [cell_obtain, ← same, cached, Option.getD_some]
  case isFalse => exact cached

namespace Recalls

/-- A lookup that fills a cell, or finds it filled, gives the class info of its type. -/
theorem result_settle
    (recalls : store.Recalls types)
    (member : type ∈ types)
    {cell : CellId}
    (cached : store.cell? type.identity = some cell) :
    (store.settle cell type).1.result = ClassInfo.build type := by
  cases filled : store.content? cell with
  | none => rw [settle_of_unfilled store type filled]
  | some result =>
      rw [settle_of_filled store type filled]
      exact recalls.content_eq type member cached filled

theorem content?_nextCell (recalls : store.Recalls types) :
    store.content? store.nextCell = none := by
  cases found : store.content? store.nextCell with
  | none => rfl
  | some result => exact absurd (recalls.settled_lt found) (lt_irrefl store.nextCell)

theorem obtain (recalls : store.Recalls types) (identity : Identity) :
    (store.obtain identity).2.Recalls types := by
  cases missing : store.cell? identity with
  | some cell =>
      rw [obtain_of_cached store identity missing]
      exact recalls
  | none =>
      have made : (store.obtain identity).2.nextCell = store.nextCell + 1 := by
        rw [obtain_of_missing store identity missing]
      -- A type has the cell it had, or its cell is the new one.
      have origin {other : Identity} {cell : CellId}
          (cached : (store.obtain identity).2.cell? other = some cell) :
          store.cell? other = some cell ∨ other = identity ∧ cell = store.nextCell := by
        rw [cell?_obtain, cell_obtain, missing] at cached
        split at cached
        case isTrue same => exact .inr ⟨same, (Option.some.inj cached).symm⟩
        case isFalse => exact .inl cached
      constructor
      case cell_lt =>
        intro other cell cached
        rw [made]
        rcases origin cached with old | ⟨-, rfl⟩
        · exact Nat.lt_succ_of_lt (recalls.cell_lt old)
        · exact Nat.lt_succ_self store.nextCell
      case settled_lt =>
        intro cell result filled
        rw [content?_obtain] at filled
        rw [made]
        exact Nat.lt_succ_of_lt (recalls.settled_lt filled)
      case content_eq =>
        intro type member cell result cached filled
        rw [content?_obtain] at filled
        rcases origin cached with old | ⟨-, rfl⟩
        · exact recalls.content_eq type member old filled
        · exact nomatch recalls.content?_nextCell.symm.trans filled
      case identity_eq =>
        intro type member other known cell cached shared unfilled
        rw [content?_obtain] at unfilled
        rcases origin cached with old | ⟨isType, new⟩
        · rcases origin shared with sharedOld | ⟨-, rfl⟩
          · exact recalls.identity_eq type member other known old sharedOld unfilled
          · exact absurd (recalls.cell_lt old) (lt_irrefl store.nextCell)
        · rcases origin shared with sharedOld | ⟨isOther, -⟩
          · exact absurd (recalls.cell_lt (new ▸ sharedOld)) (lt_irrefl store.nextCell)
          · exact isType.trans isOther.symm

theorem settle
    (distinct : types.InjOn TaskType.identity)
    (recalls : store.Recalls types)
    (member : type ∈ types)
    {cell : CellId}
    (cached : store.cell? type.identity = some cell) :
    (store.settle cell type).2.Recalls types := by
  cases content : store.content? cell with
  | some result =>
      rw [settle_of_filled store type content]
      exact recalls
  | none =>
      have contents := content?_settle_of_unfilled content type
      constructor
      case cell_lt =>
        intro identity other found
        rw [cell?_settle] at found
        rw [nextCell_settle]
        exact recalls.cell_lt found
      case settled_lt =>
        intro other result filled
        rw [contents] at filled
        rw [nextCell_settle]
        split at filled
        case isTrue same => exact same ▸ recalls.cell_lt cached
        case isFalse => exact recalls.settled_lt filled
      case content_eq =>
        intro second known other result found filled
        rw [cell?_settle] at found
        rw [contents] at filled
        split at filled
        case isTrue same =>
          -- The cell was empty, so it belongs to one type only.
          have one := recalls.identity_eq type member second known cached (same ▸ found) content
          rw [← distinct member known one]
          exact (Option.some.inj filled).symm
        case isFalse => exact recalls.content_eq second known found filled
      case identity_eq =>
        intro second known third present other found shared empty
        rw [cell?_settle] at found shared
        rw [contents] at empty
        split at empty
        case isTrue => cases empty
        case isFalse => exact recalls.identity_eq second known third present found shared empty

end Recalls

/-! ## What has been built -/

/-- The types whose class info is built when a cell is settled. -/
def builtBy (store : Store Body) (cell : CellId) (type : TaskType Body) : List Identity :=
  match store.content? cell with
  | some _ => []
  | none => [type.identity]

/-- True of the types whose class info was built since some moment.  Each was built once, and its
cell is filled. -/
structure BuiltSince (start store : Store Body) (built : List Identity) : Prop where
  nodup : built.Nodup
  filled :
    ∀ identity ∈ built, ∃ cell, store.cell? identity = some cell ∧ (store.content? cell).isSome
  constructions : store.constructions = start.constructions + built.length

namespace BuiltSince

variable {start : Store Body} {built : List Identity}

theorem refl (store : Store Body) : BuiltSince store store [] where
  nodup := List.nodup_nil
  filled := nofun
  constructions := rfl

theorem obtain (since : BuiltSince start store built) (identity : Identity) :
    BuiltSince start (store.obtain identity).2 built where
  nodup := since.nodup
  filled := by
    intro other member
    rcases since.filled other member with ⟨cell, cached, filled⟩
    refine ⟨cell, cell?_obtain_of_cached cached identity, ?_⟩
    rw [content?_obtain]
    exact filled
  constructions := (constructions_obtain store identity).trans since.constructions

theorem settle
    (since : BuiltSince start store built)
    {cell : CellId}
    (cached : store.cell? type.identity = some cell) :
    BuiltSince start (store.settle cell type).2 (built ++ store.builtBy cell type) := by
  cases content : store.content? cell with
  | some result =>
      rw [settle_of_filled store type content, builtBy, content, List.append_nil]
      exact since
  | none =>
      have contents := content?_settle_of_unfilled content type
      have new : type.identity ∉ built := by
        intro member
        rcases since.filled type.identity member with ⟨other, found, filled⟩
        cases found.symm.trans cached
        rw [content] at filled
        cases filled
      have added : store.builtBy cell type = [type.identity] := by rw [builtBy, content]
      rw [added]
      constructor
      case nodup =>
        rw [← List.concat_eq_append]
        exact since.nodup.concat new
      case filled =>
        intro identity member
        simp only [cell?_settle, contents]
        rcases List.mem_append.1 member with old | same
        · rcases since.filled identity old with ⟨other, found, filled⟩
          refine ⟨other, found, ?_⟩
          split
          case isTrue => rfl
          case isFalse => exact filled
        · cases List.mem_singleton.1 same
          exact ⟨cell, cached, by rw [if_pos rfl]; rfl⟩
      case constructions =>
        rw [settle_of_unfilled store type content, List.length_append, ← Nat.add_assoc,
          ← since.constructions]
        rfl

end BuiltSince

end TaskDispatch.Store
