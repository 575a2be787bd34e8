import TaskDispatch.Error.Cause
import TaskDispatch.Error.Diagnostic

/-!
# Unsupported dependencies

The error of declaring something as a dependency that is none.  It names the type of the value,
shows the value, and names the task whose dependencies were being visited, if there was one.
-/

namespace TaskDispatch

/-- A value that is no dependency was added as one. -/
structure UnsupportedDependency where
  typeName : String
  description : String
  owner : Option String
deriving DecidableEq, Repr

namespace UnsupportedDependency

/-- The end of the message that names the owner. -/
def ownerClause : Option String → String
  | none => ""
  | some path => " of task '" ++ path ++ "'"

/-- The message of the error. -/
def message (error : UnsupportedDependency) : String :=
  "Cannot convert " ++ error.description ++ " (of type " ++ error.typeName ++
    ") to a task dependency" ++ ownerClause error.owner

/-- The error as a cause. -/
def cause (error : UnsupportedDependency) : Cause := .ofText error.message

/-- What a person is shown. -/
def diagnostic (error : UnsupportedDependency) : Diagnostic :=
  let base :=
    (Diagnostic.ofSummary "DEPENDENCY-001-UNSUPPORTED" error.message).withFixHint
        ("Declare dependencies as tasks, task collections, buildables, " ++
          "dependency containers, transformations, or work actions.")
      |>.withDetail "type_name" error.typeName
  match error.owner with
  | some owner => base.withDetail "task" owner
  | none => base

end UnsupportedDependency

end TaskDispatch
