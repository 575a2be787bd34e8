import TaskDispatch.Error.Cause
import TaskDispatch.Error.Metadata
import TaskDispatch.Error.Unsupported

/-!
# Errors of executing a task

An action that does not succeed gives an `ExecutionError`, which names the task and, where user
code failed, keeps its cause.  A `DispatchError` is any error of this library; its sources are the
texts below its own message.
-/

namespace TaskDispatch

/-- Why an action of a task did not succeed. -/
inductive ExecutionError where
  | actionFailed (task action : String) (source : Cause)
  | isolation (task : String) (source : Cause)
  | instantiation (task actionType : String) (source : Cause)
  | notIsolatable (task : String)
  | missingInputs (task : String)
deriving DecidableEq, Repr

namespace ExecutionError

/-- The path of the task. -/
def task : ExecutionError → String
  | .actionFailed task _ _ => task
  | .isolation task _ => task
  | .instantiation task _ _ => task
  | .notIsolatable task => task
  | .missingInputs task => task

/-- The message of the error. -/
def message : ExecutionError → String
  | .actionFailed task action _ =>
      "Execution failed for task '" ++ task ++ "' (action " ++ action ++ ")"
  | .isolation task _ => "Could not isolate parameters of task '" ++ task ++ "'"
  | .instantiation task actionType _ =>
      "Could not create isolated action " ++ actionType ++ " for task '" ++ task ++ "'"
  | .notIsolatable task =>
      "Task '" ++ task ++ "' is of an isolatable type but carries no isolated parameters"
  | .missingInputs task =>
      "Task '" ++ task ++ "' has an incremental action but no incremental inputs were supplied"

/-- The failure of user code that the error keeps. -/
def source : ExecutionError → Option Cause
  | .actionFailed _ _ source => some source
  | .isolation _ source => some source
  | .instantiation _ _ source => some source
  | .notIsolatable _ => none
  | .missingInputs _ => none

/-- The texts below the message, the nearest first. -/
def sources (error : ExecutionError) : List String :=
  match error.source with
  | some cause => cause.texts
  | none => []

end ExecutionError

/-- Any error of this library. -/
inductive DispatchError where
  | unsupported (error : UnsupportedDependency)
  | metadata (error : MetadataError)
  | execution (error : ExecutionError)
  | configuration (detail : String)
  | internal (detail : String)
deriving DecidableEq, Repr

namespace DispatchError

/-- The message of the error; a wrapped error keeps its own. -/
def message : DispatchError → String
  | .unsupported error => error.message
  | .metadata error => error.message
  | .execution error => error.message
  | .configuration detail => "Configuration error: " ++ detail
  | .internal detail => "Internal error: " ++ detail

/-- The texts of the sources: the wrapped error itself, and then its own sources. -/
def sources : DispatchError → List String
  | .unsupported error => [error.message]
  | .metadata error => [error.message]
  | .execution error => error.message :: error.sources
  | .configuration _ => []
  | .internal _ => []

end DispatchError

end TaskDispatch
