import TaskDispatch.Text.Inspection

/-!
# The project and its lock

The project holds the log of completed actions, and whoever changes it holds its lock.
-/

namespace TaskDispatch

/-- An action that ran to its end. -/
structure CompletedAction where
  task : String
  action : String
deriving DecidableEq, Repr

/-- A project. -/
structure Project where
  /-- Whether someone holds the lock. -/
  locked : Bool
  /-- The completed actions, in the order of completion. -/
  completed : List CompletedAction
deriving DecidableEq, Repr

namespace Project

/-- A project in which nothing has happened. -/
def fresh : Project := ⟨false, []⟩

/-- Takes the lock. -/
def acquire (project : Project) : Project := { project with locked := true }

/-- Releases the lock. -/
def release (project : Project) : Project := { project with locked := false }

/-- Records a completed action. -/
def record (project : Project) (task action : String) : Project :=
  { project with completed := project.completed ++ [⟨task, action⟩] }

/-- True if the completed actions are exactly these, in order. -/
def hasCompleted (project : Project) (expected : List (String × String)) : Bool :=
  project.completed == expected.map fun entry => ⟨entry.1, entry.2⟩

/-- The holder of the lock as diagnostics show it. -/
def inspectGuard (project : Project) : String :=
  Text.recordForm "ProjectLockGuard" [("completed", toString project.completed.length)]

end Project

end TaskDispatch
