import TaskDispatch.Execution.Project
import TaskDispatch.Json.Basic

/-!
# Scripts that use the project lock

A script takes the lock of one project, reads and changes the project while it holds the lock, and
may give the lock up for a while.  The answers of nested operations are nested lists.
-/

namespace TaskDispatch.Scenario

/-- An operation on the lock of a project or under it. -/
inductive LockOperation where
  | isLocked
  | completed
  | lock (operations : List LockOperation)
  | tryLock (operations : List LockOperation)
  | record (task action : String)
  | count
  | inspect
  | unlocked (operations : List LockOperation)

/-- The completed actions of a project as an answer. -/
def completedAnswer (project : Project) : List Json :=
  project.completed.map fun entry => .array [.text entry.task, .text entry.action]

mutual

/-- An operation of someone who does not hold the lock. -/
def LockOperation.outside : LockOperation → Project → Json × Project
  | .isLocked, project => (.boolean project.locked, project)
  | .completed, project => (.array (completedAnswer project), project)
  | .lock operations, project =>
      let (answers, project) := guardedAll operations project.acquire
      (.array answers, project.release)
  | .tryLock operations, project =>
      if project.locked then (.null, project)
      else
        let (answers, project) := guardedAll operations project.acquire
        (.array answers, project.release)
  | _, project => (.null, project)

/-- Operations of someone who does not hold the lock, in order. -/
def outsideAll : List LockOperation → Project → List Json × Project
  | [], project => ([], project)
  | operation :: operations, project =>
      let (answer, project) := operation.outside project
      let (answers, project) := outsideAll operations project
      (answer :: answers, project)

/-- An operation of the holder of the lock. -/
def LockOperation.guarded : LockOperation → Project → Json × Project
  | .isLocked, project => (.boolean project.locked, project)
  | .record task action, project =>
      let project := project.record task action
      (.ofNat project.completed.length, project)
  | .count, project => (.ofNat project.completed.length, project)
  | .inspect, project => (.text project.inspectGuard, project)
  | .tryLock operations, project =>
      if project.locked then (.null, project)
      else
        let (answers, project) := guardedAll operations project.acquire
        (.array answers, project.release)
  | .unlocked operations, project =>
      let (answers, project) := outsideAll operations project.release
      (.array answers, project.acquire)
  | _, project => (.null, project)

/-- Operations of the holder of the lock, in order. -/
def guardedAll : List LockOperation → Project → List Json × Project
  | [], project => ([], project)
  | operation :: operations, project =>
      let (answer, project) := operation.guarded project
      let (answers, project) := guardedAll operations project
      (answer :: answers, project)

end

end TaskDispatch.Scenario
