import TaskDispatch.Error.Unsupported
import TaskDispatch.Observation.Event
import TaskDispatch.Task

/-!
# Declarations and contributors

A declaration is what a task, or a contributor, says it depends on: a task, a work action, a value
that is no dependency, or a contributor presented under one of four shapes.

Contributors are objects with an identity of their own, so that they can be shared and can refer to
each other in cycles.  A declaration therefore holds only the place of a contributor in a table, and
the table says how the contributor behaves.  What a container or a transformation does when it is
visited is a `Visit`: a finite tree of calls, each of which may look at the outcome of the one
before.
-/

namespace TaskDispatch

/-- The shape under which a contributor is presented. -/
inductive Shape where
  | tasks
  | container
  | buildable
  | transformation
deriving DecidableEq, Repr

/-- The name of a contributor that has none of its own. -/
def Shape.defaultName : Shape → String
  | .tasks => "task collection"
  | .container => "dependency container"
  | .buildable => "buildable"
  | .transformation => "transformation"

/-- The name of a shape in diagnostics. -/
def Shape.inspect : Shape → String
  | .tasks => "Tasks"
  | .container => "Container"
  | .buildable => "Buildable"
  | .transformation => "Transformation"

/-- The place of a contributor in the table of contributors. -/
abbrev ContributorId := Nat

/-- A value that is no dependency, with the name of its type and the way diagnostics show it. -/
structure ForeignValue where
  typeName : String
  description : String
  content : Json

namespace ForeignValue

/-- The value, if it is of exactly this type. -/
def viewAs (value : ForeignValue) (typeName : String) : Option Json :=
  if value.typeName = typeName then some value.content else none

/-- The error of adding the value as a dependency. -/
def unsupported (value : ForeignValue) (owner : Option String) : UnsupportedDependency :=
  ⟨value.typeName, value.description, owner⟩

end ForeignValue

/-- What is declared as a dependency. -/
inductive Declaration where
  | task (target : Task)
  | work (action : WorkAction)
  | contributor (shape : Shape) (place : ContributorId)
  | other (value : ForeignValue)

namespace Declaration

/-- True for everything but a value that is no dependency. -/
def isSupported : Declaration → Bool
  | .other _ => false
  | _ => true

/-- The contributor that a declaration presents. -/
def contributor? : Declaration → Option ContributorId
  | .contributor _ place => some place
  | _ => none

/-- The node that a declaration is, if it is one. -/
def node? : Declaration → Option Node
  | .task target => some (.task target)
  | .work action => some (.work action)
  | _ => none

end Declaration

/-- The outcome of adding a declaration. -/
abbrev AddResult := Except UnsupportedDependency Unit

/-- What a container or a transformation does with the context it is given. -/
inductive Visit where
  /-- Nothing more. -/
  | finish
  /-- End with an error. -/
  | raise (error : UnsupportedDependency)
  /-- Add a declaration. -/
  | add (declaration : Declaration) (next : AddResult → Visit)
  /-- Add a declaration unless it is no dependency. -/
  | maybeAdd (declaration : Declaration) (next : AddResult → Visit)
  /-- Record a failure. -/
  | fail (cause : Cause) (next : Visit)
  /-- Declare a further dependency of a task. -/
  | declare (task : Identity) (declaration : Declaration) (next : Visit)

namespace Visit

/-- Goes on after a success and ends with the error after a failure. -/
def orRaise (next : Visit) : AddResult → Visit
  | .ok _ => next
  | .error error => .raise error

/-- Goes on after a success, and after a failure once it is recorded. -/
def orFail (next : Visit) : AddResult → Visit
  | .ok _ => next
  | .error error => .fail error.cause next

/-- Adds every declaration in order and ends with the first error. -/
def addAll : List Declaration → Visit
  | [] => .finish
  | declaration :: declarations => .add declaration (orRaise (addAll declarations))

end Visit

/-- How a contributor behaves under each shape.  The owner is the task whose dependencies are being
visited, if there is one. -/
structure Contributor where
  displayName : Shape → String
  /-- The tasks contributed as a collection of tasks. -/
  tasks : Option Task → Except Cause (List Task)
  /-- The declaration contributed as a buildable. -/
  build : Except Cause Declaration
  /-- The calls made as a container or as a transformation. -/
  visit : Option Task → Visit

/-- A table of contributors; a contributor is known by its place. -/
abbrev Contributors := List Contributor

namespace Contributor

/-- A contributor without name that contributes nothing. -/
def idle : Contributor where
  displayName := Shape.defaultName
  tasks _ := .ok []
  build := .error (.ofText "nothing to build")
  visit _ := .finish

/-- A collection of fixed tasks. -/
def taskSet (members : List Task) : Contributor :=
  { idle with
    displayName := fun _ =>
      "task set [" ++ Text.joined ", " (members.map Task.path) ++ "]"
    tasks := fun _ => .ok members }

/-- A container of mixed declarations. -/
def dependencySet (values : List Declaration) : Contributor :=
  { idle with
    displayName := fun _ => "dependency set of " ++ toString values.length ++ " values"
    visit := fun _ => .addAll values }

/-- A buildable that always contributes the same declaration. -/
def staticBuildable (declaration : Declaration) : Contributor :=
  { idle with build := .ok declaration }

/-- A buildable that always fails. -/
def failingBuildable (name : String) (cause : Cause) : Contributor :=
  { idle with displayName := fun _ => name, build := .error cause }

/-- A collection of tasks that always fails. -/
def failingTasks (name : String) (cause : Cause) : Contributor :=
  { idle with displayName := fun _ => name, tasks := fun _ => .error cause }

end Contributor

namespace Contributors

/-- The name of a contributor under a shape. -/
def displayName (contributors : Contributors) (shape : Shape) (place : ContributorId) : String :=
  match contributors[place]? with
  | some contributor => contributor.displayName shape
  | none => shape.defaultName

end Contributors

namespace Declaration

open TaskDispatch.Text

/-- A declaration as messages show it. -/
def describe (contributors : Contributors) : Declaration → String
  | .task target => target.display
  | .work action => action.display
  | .contributor shape place => contributors.displayName shape place
  | .other value => value.description ++ " (" ++ value.typeName ++ ")"

/-- A work action as diagnostics show it, its identity replaced by `identity`. -/
def inspectWork (identity : String) (action : WorkAction) : String :=
  recordForm "WorkAction"
    [ ("id", identity), ("kind", action.kind.inspect), ("description", quoted action.description) ]

/-- A declaration as diagnostics show it, identities replaced by `identity`. -/
def inspect (contributors : Contributors) (identity : String) : Declaration → String
  | .task target => callForm "Task" [quoted target.path]
  | .work action => callForm "Work" [inspectWork identity action]
  | .contributor shape place =>
      callForm shape.inspect [quoted (contributors.displayName shape place)]
  | .other value =>
      callForm "Other"
        [ recordForm "OpaqueValue"
            [ ("type_name", quoted value.typeName),
              ("description", quoted value.description) ] ]

end Declaration

end TaskDispatch
