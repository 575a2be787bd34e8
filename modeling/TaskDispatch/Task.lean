import TaskDispatch.Identity

/-!
# Tasks, work actions and the nodes they are

A task is known by its identity; its path is a label, which two tasks may share.  A work action is
a unit of work that is no task.  A node is either of the two, and is identified by the identity it
carries.
-/

namespace TaskDispatch

/-- A task, by its identity and its path. -/
structure Task where
  identity : Identity
  path : String
deriving DecidableEq, Repr, Inhabited

/-- A task as messages show it. -/
def Task.display (task : Task) : String := "task '" ++ task.path ++ "'"

/-- What a work action is for. -/
inductive WorkKind where
  /-- Work after the tasks it finalizes. -/
  | finalize
  /-- Work of its own. -/
  | workNode
deriving DecidableEq, Repr, Inhabited

namespace WorkKind

/-- The name of a kind in documents. -/
def name : WorkKind → String
  | .finalize => "finalize"
  | .workNode => "work_node"

/-- The kind with a name. -/
def ofName? : String → Option WorkKind
  | "finalize" => some .finalize
  | "work_node" => some .workNode
  | _ => none

/-- A kind as messages show it. -/
def display : WorkKind → String
  | .finalize => "finalize action"
  | .workNode => "work node action"

/-- A kind as diagnostics show it. -/
def inspect : WorkKind → String
  | .finalize => "Finalize"
  | .workNode => "WorkNode"

@[simp]
theorem ofName?_name (kind : WorkKind) : ofName? kind.name = some kind := by
  cases kind <;> rfl

end WorkKind

/-- A unit of work that is no task. -/
structure WorkAction where
  identity : Identity
  kind : WorkKind
  description : String
deriving DecidableEq, Repr, Inhabited

/-- A work action as messages show it. -/
def WorkAction.display (action : WorkAction) : String :=
  action.kind.display ++ " '" ++ action.description ++ "'"

/-- A unit that can be scheduled. -/
inductive Node where
  | task (task : Task)
  | work (action : WorkAction)
deriving DecidableEq, Repr

/-- What identifies a node. -/
inductive NodeKey where
  | task (identity : Identity)
  | work (identity : Identity)
deriving DecidableEq, Repr

namespace Node

/-- The key of a node. -/
def key : Node → NodeKey
  | .task member => .task member.identity
  | .work action => .work action.identity

/-- The task that a node is. -/
def task? : Node → Option Task
  | .task member => some member
  | .work _ => none

/-- A node as messages show it. -/
def display : Node → String
  | .task member => member.display
  | .work action => action.display

@[simp]
theorem key_work (action : WorkAction) : (Node.work action).key = .work action.identity := rfl

end Node

end TaskDispatch
