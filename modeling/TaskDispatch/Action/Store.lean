import TaskDispatch.Action.ClassInfo
import TaskDispatch.Observation.Event

/-!
# Stores of class info

A store remembers the class info of each task type, or the error of building it.  A lookup takes two
steps: `obtain` finds the cell of the type, making an empty one if there is none, and `settle` fills
the cell unless it is filled and reads it.  Two lookups give the same object exactly when they
settled the same cell.  A cell taken out of the store by `evict` or `clear` can still be settled by
a lookup that obtained it before.
-/

namespace TaskDispatch

open TaskDispatch.Text

/-- The place of a cell. -/
abbrev CellId := Nat

/-- What a lookup gives. -/
abbrev ClassInfoResult (Body : Type) := Except MetadataError (ClassInfo Body)

/-- A store of class info. -/
structure Store (Body : Type) where
  /-- The cached types with their cells. -/
  cells : List (Identity × CellId)
  /-- The filled cells, including those taken out. -/
  settled : List (CellId × ClassInfoResult Body)
  /-- The first place at which no cell has been made. -/
  nextCell : CellId
  /-- How often class info has been built. -/
  constructions : Nat

namespace Store

variable {Body : Type}

/-- The store without cells. -/
def empty : Store Body := ⟨[], [], 0, 0⟩

/-- The entry under a key of a list of pairs. -/
def under {Key Value : Type} [DecidableEq Key] (key : Key) : List (Key × Value) → Option Value
  | [] => none
  | (key', value) :: rest => if key = key' then some value else under key rest

/-- The number of cached types. -/
def size (store : Store Body) : Nat := store.cells.length

/-- The cell of a type. -/
def cell? (store : Store Body) (identity : Identity) : Option CellId :=
  under identity store.cells

/-- The content of a cell. -/
def content? (store : Store Body) (cell : CellId) : Option (ClassInfoResult Body) :=
  under cell store.settled

/-- Finds the cell of a type, and makes an empty one if there is none. -/
def obtain (store : Store Body) (identity : Identity) : CellId × Store Body :=
  match store.cell? identity with
  | some cell => (cell, store)
  | none =>
      (store.nextCell,
        { store with
          cells := store.cells ++ [(identity, store.nextCell)]
          nextCell := store.nextCell + 1 })

/-- The event of building class info. -/
def built (type : TaskType Body) : ClassInfoResult Body → Event
  | .ok info =>
      ⟨.debug, "Built task class info",
        [ ("task_type", .text type.name), ("actions", .count info.factories.length),
          ("incremental", .flag info.incremental), ("cacheable", .flag info.cacheable) ]⟩
  | .error error =>
      ⟨.warn, "Invalid task action declarations",
        [ ("task_type", .text type.name), ("code", .text error.code),
          ("error", .text error.message) ]⟩

/-- What a lookup gives, with the cell it was read from and the events on the way. -/
structure Found (Body : Type) where
  result : ClassInfoResult Body
  cell : CellId
  events : List Event

/-- Fills a cell with the class info of a type unless it is filled, and reads it. -/
def settle
    (store : Store Body)
    (cell : CellId)
    (type : TaskType Body) :
    Found Body × Store Body :=
  match store.content? cell with
  | some result => (⟨result, cell, []⟩, store)
  | none =>
      let result := ClassInfo.build type
      (⟨result, cell, [built type result]⟩,
        { store with
          settled := store.settled ++ [(cell, result)]
          constructions := store.constructions + 1 })

/-- Looks a type up. -/
def lookup (store : Store Body) (type : TaskType Body) : Found Body × Store Body :=
  let (cell, store) := store.obtain type.identity
  store.settle cell type

/-- Takes the cell of a type out of the store, and says whether there was one. -/
def evict (store : Store Body) (identity : Identity) : Bool × Store Body :=
  ((store.cell? identity).isSome,
    { store with cells := store.cells.filter fun entry => entry.1 != identity })

/-- Takes all cells out of the store. -/
def clear (store : Store Body) : Store Body := { store with cells := [] }

/-- A store as diagnostics show it. -/
def inspect (store : Store Body) : String :=
  recordForm "TaskClassInfoStore"
    [ ("cached_types", toString store.size), ("constructions", toString store.constructions) ]

end Store

end TaskDispatch
