import TaskDispatch.Action.Inputs
import TaskDispatch.Resolution.Declaration

/-!
# Scripts

A scenario drives the library with user code that is written down as data: contributors that make
listed calls, and action bodies that run listed operations.  Things are named by texts, and a name
is looked up when it is used, so a script may name things that are defined later, itself included.
-/

namespace TaskDispatch.Scenario

/-- The name of a thing in a scenario. -/
abbrev Name := String

mutual

/-- A declaration as it is written.  Each time it is evaluated it makes new contributors and new
work actions, except where it names them. -/
inductive Expression where
  | task (name : Name)
  | tasks (names : List Name)
  | work (name : Name)
  | newWork (kind : WorkKind) (description : String)
  | set (values : List Expression)
  | staticBuildable (value : Expression)
  | failingBuildable (name message : String)
  | failingTasks (name message : String)
  | foreign (value : ForeignValue)
  | scripted (script : Script) (shape : Shape)
  | reference (name : Name) (shape : Shape)

/-- A scripted contributor: its name, its calls as a container or transformation, and what it
contributes as a buildable or as a collection of tasks. -/
inductive Script where
  | mk
      (name : Option String)
      (calls : List Call)
      (build : Option Expression)
      (failure : Option Cause)
      (tasks : List Name)
      (withOwner : Bool)

/-- A call that a scripted contributor makes. -/
inductive Call where
  | add (value : Expression)
  | maybeAdd (value : Expression)
  | fail (cause : Cause)
  /-- Add, and record the error as a failure. -/
  | rescue (value : Expression)
  /-- Add the task whose dependencies are visited. -/
  | owner
  | raise (error : UnsupportedDependency)
  | dependsOn (task : Name) (value : Expression)

end

/-- An operation of a scripted body. -/
inductive Operation where
  | log (value : Json)
  | path
  | inputs
  | ofKind (kind : ChangeKind)
  | fail (cause : Cause)
  | panic
  | locked (lock : Name)
  | record (lock : Name) (task action : String)
  | execute (executer task : Name)
  | set (parameters : Name) (key : String) (value : Json)
  | dependsOn (task : Name) (value : Expression)
  | clear (task : Name)
  | info (store type : Name)
  | evict (store type : Name)

/-- The body of a scripted method. -/
inductive MethodBody where
  /-- Note that the method ran. -/
  | note
  /-- Note that the method ran, and fail. -/
  | noteAndFail (message : String)
  /-- Run operations. -/
  | operations (operations : List Operation)

/-- A body as a method holds it: its label, and whether it asks for incremental inputs. -/
structure Body where
  label : String
  takesInputs : Bool
  content : MethodBody

end TaskDispatch.Scenario
