import TaskDispatch.Isolation.NativeValue
import TaskDispatch.Scenario.LockScript
import TaskDispatch.Scenario.Running

/-!
# The steps of a scenario

Each step defines something, changes something or looks at something, and gives the state
afterwards.  A step that names something undefined gives nothing.
-/

namespace TaskDispatch.Scenario

namespace State

/-! ## Definitions -/

/-- A new identity. -/
def newIdentity (state : State) : Identity × State :=
  (⟨state.nextIdentity⟩, { state with nextIdentity := state.nextIdentity + 1 })

/-- What a type declares, apart from its identity. -/
structure TypeDefinition where
  name : String
  parent : Option Name
  cacheable : Bool
  isolatable : Bool
  methods : List (ActionMethod Body)

/-- Makes a task type. -/
def makeType (state : State) (definition : TypeDefinition) : TaskType Body × State :=
  let (identity, state) := state.newIdentity
  let layer : TypeLayer Body :=
    { identity
      name := definition.name
      cacheable := definition.cacheable
      isolatable := definition.isolatable
      methods := definition.methods }
  (.extending layer (definition.parent.bind state.type?), state)

/-- Defines a task type. -/
def defineType (state : State) (name : Name) (definition : TypeDefinition) :
    TaskType Body × State :=
  let (type, state) := state.makeType definition
  (type, { state with types := state.types.put name type })

/-- The type of a task that is given none. -/
def plainType : TypeDefinition := ⟨"Plain", none, false, false, []⟩

/-- The type with a name, or a new plain one. -/
def typeOrPlain (state : State) : Option Name → TaskType Body × State
  | none => state.makeType plainType
  | some name =>
      match state.type? name with
      | some type => (type, state)
      | none => state.makeType plainType

/-- Defines a task.  Its declared dependencies are evaluated before the task has its name. -/
def defineTask
    (state : State)
    (name : Name)
    (path : String)
    (type parameters : Option Name)
    (dependencies : List Expression) :
    ScenarioTask × State :=
  let (type, state) := state.typeOrPlain type
  let (identity, state) := state.newIdentity
  let (declarations, state) := state.declarations dependencies
  let target : ScenarioTask :=
    { task := ⟨identity, path⟩
      type
      parameters := parameters.bind state.parameters.find? }
  (target,
    { state with tasks := state.tasks.put name target }.declareOn identity declarations)

/-- Defines a work action. -/
def defineWork (state : State) (name : Name) (kind : WorkKind) (description : String) :
    WorkAction × State :=
  let (identity, state) := state.newIdentity
  let action : WorkAction := ⟨identity, kind, description⟩
  (action, { state with works := state.works.put name action })

/-- Names a declaration. -/
def defineDeclaration (state : State) (name : Name) (value : Expression) : Declaration × State :=
  let (declaration, state) := state.declaration value
  (declaration,
    { state with named := state.named.put name (.ofExpression value declaration) })

/-- The number of visits of a contributor that was named where its script is written. -/
def visitsOf (state : State) (name : Name) : Option Nat := do
  let place ← (← state.named.find? name).scriptedPlace?
  return (state.visits.filter fun visited => visited == place).length

/-! ## Tasks and nodes -/

/-- Declares further dependencies of a task. -/
def dependsOn (state : State) (name : Name) (values : List Expression) : Option (Task × State) := do
  let target ← state.task? name
  let (declarations, state) := state.declarations values
  return (target, state.declareOn target.identity declarations)

/-- Removes the declared dependencies of a task. -/
def clear (state : State) (name : Name) : Option (List Declaration × State) := do
  let target ← state.task? name
  return (state.dependenciesOf target.identity, state.setDependencies target.identity [])

/-- The first of some names, in their order. -/
def leastName : List Name → Option Name
  | [] => none
  | name :: names =>
      match leastName names with
      | none => some name
      | some other => some (if name < other then name else other)

/-- The name of a node, the first if it has several. -/
def nameOf (state : State) : Node → Option Name
  | .task target =>
      leastName ((state.tasks.filter fun entry =>
        entry.2.task.identity == target.identity).map Prod.fst)
  | .work action =>
      leastName ((state.works.filter fun entry =>
        entry.2.identity == action.identity).map Prod.fst)

/-! ## Resolution -/

/-- Changes a context with all contributors and keeps what the walk left. -/
def walk
    {Result : Type}
    (state : State)
    (context : Context)
    (step : Contributors → Context → Context × Result) :
    Result × Context × State :=
  let (contributors, making) := state.allContributors
  let (after, result) := step contributors context
  let (context, state) := state.afterWalk making context.visited.length after
  (result, context, state)

/-- Changes a named context. -/
def onContext
    {Result : Type}
    (state : State)
    (name : Name)
    (step : Contributors → Context → Context × Result) :
    Option (Result × Context × State) := do
  let context ← state.contexts.find? name
  let (result, context, state) := state.walk context step
  return (result, context, { state with contexts := state.contexts.put name context })

/-- Makes a new context. -/
def defineContext (state : State) (name : Name) (owner : Option Name) : Context × State :=
  let context := Context.fresh (owner.bind state.task?)
  (context, { state with contexts := state.contexts.put name context })

/-- Adds a declaration to a context. -/
def addTo (state : State) (name : Name) (value : Expression) :
    Option (AddResult × Context × State) :=
  let (declaration, state) := state.declaration value
  state.onContext name fun contributors context => context.add contributors declaration

/-- Adds a declaration to a context, unless it is no dependency. -/
def maybeAddTo (state : State) (name : Name) (value : Expression) :
    Option (AddResult × Context × State) :=
  let (declaration, state) := state.declaration value
  state.onContext name fun contributors context => context.maybeAdd contributors declaration

/-- Records a failure in a context. -/
def failIn (state : State) (name : Name) (cause : Cause) :
    Option (AddResult × Context × State) :=
  state.onContext name fun _ context => (context.visitFailure cause, .ok ())

/-- Ends a context. -/
def takeContext (state : State) (name : Name) : Option (Context × State) := do
  let context ← state.contexts.find? name
  return (context,
    { state with contexts := state.contexts.filter fun entry => entry.1 != name })

/-- Keeps what a resolution left. -/
def afterResolution
    (state : State)
    (resolve : Contributors → ResolutionRun) :
    Resolution × State :=
  let (contributors, making) := state.allContributors
  let run := resolve contributors
  (run.resolution, (state.afterWalk making 0 run.context).2)

/-- Resolves the dependencies of a task. -/
def resolve (state : State) (name : Name) (policy : SelfDependencyPolicy) :
    Option (Resolution × State) := do
  let target ← state.task? name
  return state.afterResolution fun contributors =>
    Resolver.resolve contributors policy target (state.dependenciesOf target.identity)

/-- Resolves declarations that belong to no task. -/
def resolveRoot (state : State) (values : List Expression) : Resolution × State :=
  let (declarations, state) := state.declarations values
  state.afterResolution fun contributors => Resolver.resolveRoot contributors declarations

/-! ## Class info -/

/-- Looks a type up, and says whether the result is the object that the last successful look-up of
the same type in the same store gave. -/
def info (state : State) (type store : Name) :
    Option (ClassInfoResult Body × Bool × State) := do
  let taskType ← state.type? type
  let (found, state) := state.lookup store taskType
  let key := (store, taskType.identity)
  let before := List.lookup key state.lastCells
  match found.result with
  | .error error => return (.error error, false, state)
  | .ok info =>
      return (.ok info, before == some found.cell,
        { state with
          lastCells := (key, found.cell) :: state.lastCells.filter fun entry => entry.1 != key })

/-- Looks a type up a number of times. -/
def lookups (state : State) (store : Name) (type : TaskType Body) :
    Nat → List (Store.Found Body) × State
  | 0 => ([], state)
  | count + 1 =>
      let (found, state) := state.lookup store type
      let (others, state) := state.lookups store type count
      (found :: others, state)

/-- Looks a type up from several threads, and says whether all saw the same. -/
def concurrentInfo (state : State) (type store : Name) (threads : Nat) :
    Option (ClassInfoResult Body × Bool × State) := do
  let taskType ← state.type? type
  let (results, state) := state.lookups store taskType threads
  let first ← results.head?
  return (first.result, results.all fun found => found.cell == first.cell, state)

/-- Takes a type out of a store. -/
def evict (state : State) (type store : Name) : Option (Bool × State) := do
  let taskType ← state.type? type
  let (evicted, rest) := (state.store store).evict taskType.identity
  return (evicted, state.setStore store rest)

/-- Takes all types out of a store. -/
def clearStore (state : State) (store : Name) : State :=
  state.setStore store (state.store store).clear

/-! ## Execution -/

/-- Defines an executer. -/
def defineExecuter (state : State) (name : Name) (setup : ExecuterSetup) : State :=
  { state with executers := state.executers.put name setup }

/-- Runs a lock script. -/
def runLockScript (state : State) (lock : Name) (operations : List LockOperation) :
    List Json × State :=
  let (answers, project) := outsideAll operations (state.project lock)
  (answers, state.setProject lock project)

/-! ## Parameters -/

/-- Defines parameters with a live graph of their own. -/
def defineParameters
    (state : State)
    (name : Name)
    (action : IsolatedAction Parameters)
    (value : NativeValue) :
    Except EncodingProblem (Json × State) :=
  match value.toJson with
  | .error problem => .error problem
  | .ok values =>
      .ok
        (values,
          { state with
            parameters := state.parameters.put name ⟨state.graphs.length, action⟩
            graphs := state.graphs ++ [values] })

/-- Gives another name to parameters. -/
def aliasParameters (state : State) (name parameters : Name) : Option State := do
  let handle ← state.parameters.find? parameters
  return { state with parameters := state.parameters.put name handle }

/-- The current values of parameters. -/
def currentValues (state : State) (name : Name) : Option Json :=
  (state.parameters.find? name).map fun handle => state.graph handle.graph

/-- Sets a member of parameters. -/
def setMember (state : State) (name : Name) (key : String) (value : NativeValue) :
    Except EncodingProblem State :=
  match value.toJson with
  | .error problem => .error problem
  | .ok encoded => .ok (state.setParameter name key encoded)

/-- Replaces the value that a pointer leads to, and gives the one it replaced. -/
def updateParameters (state : State) (name : Name) (pointer : String) (value : Json) :
    Option (Option Json × State) := do
  let handle ← state.parameters.find? name
  match LiveGraph.replace pointer value (state.graph handle.graph) with
  | none => return (none, state)
  | some (old, updated) => return (some old, state.setGraph handle.graph updated)

/-- Takes a snapshot of parameters. -/
def takeSnapshot (state : State) (name parameters : Name) : Option (Json × State) := do
  let values ← state.currentValues parameters
  return (values, { state with snapshots := state.snapshots.put name values })

end State

end TaskDispatch.Scenario
