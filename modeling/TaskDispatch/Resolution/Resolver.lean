import TaskDispatch.Configuration
import TaskDispatch.Resolution.Context

/-!
# Resolution of the dependencies of a task

`resolve` expands the declared dependencies of a task into nodes.  The task itself is never among
them; whether its dependency on itself is also a failure is a matter of policy.  `resolveRoot`
expands declarations that belong to no task.
-/

namespace TaskDispatch

/-- What the dependencies of a task came to. -/
structure Resolution where
  nodes : List Node
  failures : List ResolutionFailure
  /-- One error for each declaration that could not be added, in order. -/
  unsupported : List UnsupportedDependency
deriving DecidableEq, Repr

namespace Resolution

/-- The tasks among the nodes. -/
def tasks (resolution : Resolution) : List Task := resolution.nodes.filterMap Node.task?

/-- True if the task is among the nodes. -/
def containsTask (resolution : Resolution) (identity : Identity) : Bool :=
  resolution.tasks.any fun task => task.identity == identity

/-- The resolution, if every declaration could be added, and else the first error. -/
def strict (resolution : Resolution) : Except UnsupportedDependency Resolution :=
  match resolution.unsupported with
  | [] => .ok resolution
  | error :: _ => .error error

end Resolution

/-- A resolution and the context it was reached in. -/
structure ResolutionRun where
  resolution : Resolution
  context : Context

namespace Resolver

/-- The failure of a task that depends on itself. -/
def selfDependency (owner : Task) : Cause := .ofText (owner.display ++ " depends on itself")

/-- The event of leaving a task out of its own dependencies. -/
def ignoredSelf (owner : Task) : Event :=
  ⟨.warn, "Ignoring dependency of task on itself", [("task", .text owner.path)]⟩

/-- The event that sums a resolution up. -/
def summary (owner : Task) (resolution : Resolution) : Event :=
  ⟨.debug, "Resolved task dependencies",
    [ ("task", .text owner.path),
      ("nodes", .count resolution.nodes.length),
      ("failures", .count resolution.failures.length),
      ("unsupported", .count resolution.unsupported.length) ]⟩

/-- Records the failure of a task that depends on itself, if the policy asks for it. -/
def reportSelf (policy : SelfDependencyPolicy) (owner : Task) (context : Context) : Context :=
  if context.contains (.task owner.identity) ∧ policy = .report then
    context.visitFailure (selfDependency owner)
  else context

/-- Resolves the declared dependencies of a task. -/
def resolve
    (contributors : Contributors)
    (policy : SelfDependencyPolicy)
    (owner : Task)
    (declared : List Declaration) :
    ResolutionRun :=
  let added := (Context.fresh (some owner)).addAll contributors declared
  let context := reportSelf policy owner added.1
  let isOwner (node : Node) : Bool := node.key == .task owner.identity
  let resolution : Resolution :=
    { nodes := context.nodes.filter fun node => !isOwner node
      failures := context.failures
      unsupported := added.2 }
  let warnings := (context.nodes.filter isOwner).map fun _ => ignoredSelf owner
  { resolution
    context :=
      { context with events := context.events ++ warnings ++ [summary owner resolution] } }

/-- Resolves declarations that belong to no task. -/
def resolveRoot (contributors : Contributors) (declared : List Declaration) : ResolutionRun :=
  let added := (Context.fresh none).addAll contributors declared
  { resolution := ⟨added.1.nodes, added.1.failures, added.2⟩
    context := added.1 }

end Resolver

/-! ## Judging a resolution -/

namespace Resolution

/-- True if the paths of the resolved tasks are those of the expected tasks, in any order, and there
are as many resolved tasks as expected ones. -/
def hasTasks (resolution : Resolution) (expected : List Task) : Bool :=
  let actual := resolution.tasks.map Task.path
  let wanted := expected.map Task.path
  actual.all wanted.contains && wanted.all actual.contains &&
    resolution.tasks.length == expected.length

/-- True if the failures were met in exactly these declarations, in order. -/
def hasFailures (resolution : Resolution) (expected : List String) : Bool :=
  resolution.failures.map ResolutionFailure.declaration == expected

end Resolution

end TaskDispatch
