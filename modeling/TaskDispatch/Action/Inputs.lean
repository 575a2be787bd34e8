import TaskDispatch.Json.Reader

/-!
# Incremental inputs

What changed since a task last ran.  Inputs either ask for everything to be rebuilt, and then list
no changes, or say that only the listed changes need work.  They are made elsewhere and handed
through to the one action of a task that takes them.
-/

namespace TaskDispatch

/-- How an input changed. -/
inductive ChangeKind where
  | added
  | modified
  | removed
deriving DecidableEq, Repr

namespace ChangeKind

/-- The name of a kind. -/
def name : ChangeKind → String
  | .added => "added"
  | .modified => "modified"
  | .removed => "removed"

/-- A kind as diagnostics show it. -/
def inspect : ChangeKind → String
  | .added => "Added"
  | .modified => "Modified"
  | .removed => "Removed"

/-- The kind with a name. -/
def ofName? : String → Option ChangeKind
  | "added" => some .added
  | "modified" => some .modified
  | "removed" => some .removed
  | _ => none

/-- The documents of kinds. -/
def schema : Json.Schema := .choice ["added", "modified", "removed"]

@[simp]
theorem ofName?_name (kind : ChangeKind) : ofName? kind.name = some kind := by
  cases kind <;> rfl

end ChangeKind

/-- One changed input. -/
structure InputChange where
  path : String
  kind : ChangeKind
deriving DecidableEq, Repr

namespace InputChange

open TaskDispatch.Text

/-- A change as a document. -/
def toJson (change : InputChange) : Json :=
  .object [("path", .text change.path), ("kind", .text change.kind.name)]

/-- The documents of changes. -/
def schema : Json.Schema :=
  .record "InputChange" [("path", .refused, .text), ("kind", .refused, ChangeKind.schema)]

/-- The change that a document in plain form stands for. -/
def ofJson? : Json → Option InputChange
  | .object [("path", .text path), ("kind", .text kind)] =>
      (ChangeKind.ofName? kind).map fun kind => ⟨path, kind⟩
  | _ => none

/-- Reads a change from JSON text. -/
def ofText (written : String) : Except Json.Problem InputChange := schema.readValue ofJson? written

/-- A change as diagnostics show it. -/
def inspect (change : InputChange) : String :=
  recordForm "InputChange" [("path", quoted change.path), ("kind", change.kind.inspect)]

/-- The document of a change stands for it. -/
@[simp]
theorem ofJson?_toJson (change : InputChange) : ofJson? change.toJson = some change := by
  simp [ofJson?, toJson]

theorem mapM_ofJson?_map_toJson (changes : List InputChange) :
    (changes.map toJson).mapM ofJson? = some changes := by
  induction changes with
  | nil => rfl
  | cons change changes ih => simp [ih]

end InputChange

/-- Inputs of an incremental action. -/
structure IncrementalInputs where
  incremental : Bool
  changes : List InputChange
deriving DecidableEq, Repr

namespace IncrementalInputs

open TaskDispatch.Text

/-- Inputs that ask for everything to be rebuilt. -/
def rebuild : IncrementalInputs := ⟨false, []⟩

/-- Inputs that list what changed. -/
def ofChanges (changes : List InputChange) : IncrementalInputs := ⟨true, changes⟩

/-- The changes of one kind, in order. -/
def ofKind (inputs : IncrementalInputs) (kind : ChangeKind) : List InputChange :=
  inputs.changes.filter fun change => change.kind == kind

/-- Inputs as a document. -/
def toJson (inputs : IncrementalInputs) : Json :=
  .object
    [ ("incremental", .boolean inputs.incremental),
      ("changes", .array (inputs.changes.map InputChange.toJson)) ]

/-- The documents of inputs. -/
def schema : Json.Schema :=
  .record "IncrementalInputs"
    [("incremental", .refused, .boolean), ("changes", .refused, .list InputChange.schema)]

/-- The inputs that a document in plain form stands for. -/
def ofJson? : Json → Option IncrementalInputs
  | .object [("incremental", .boolean incremental), ("changes", .array items)] =>
      (items.mapM InputChange.ofJson?).map fun changes => ⟨incremental, changes⟩
  | _ => none

/-- Reads inputs from JSON text. -/
def ofText (written : String) : Except Json.Problem IncrementalInputs :=
  schema.readValue ofJson? written

/-- Inputs as diagnostics show them. -/
def inspect (inputs : IncrementalInputs) : String :=
  recordForm "IncrementalInputs"
    [ ("incremental", boolForm inputs.incremental),
      ("changes", listForm (inputs.changes.map InputChange.inspect)) ]

/-- The document of inputs stands for them. -/
@[simp]
theorem ofJson?_toJson (inputs : IncrementalInputs) : ofJson? inputs.toJson = some inputs := by
  simp only [ofJson?, toJson, InputChange.mapM_ofJson?_map_toJson, Option.map_some]

end IncrementalInputs

end TaskDispatch
