import TaskDispatch.Execution.Executer
import TaskDispatch.Execution.Project
import TaskDispatch.Resolution.Resolver
import TaskDispatch.Scenario.Actions

/-!
# The state of a scenario

Everything a scenario has defined, by name, together with what can be observed of user code: the log
of operations, the notes of methods that ran, and the events of the library.

A contributor is known by its place.  What it was written as is kept as a `Blueprint`; before each
walk the blueprints are made into contributors.  A scripted contributor then gets the contributors
and work actions that its script writes inline; since a walk visits it at most once, they are new in
each walk.
-/

namespace TaskDispatch.Scenario

/-- Things by name. -/
abbrev Table (Value : Type) := List (Name × Value)

namespace Table

/-- The thing with a name. -/
def find? {Value : Type} (table : Table Value) (name : Name) : Option Value :=
  List.lookup name table

/-- Gives a thing a name, in the place of what had it before. -/
def put {Value : Type} (table : Table Value) (name : Name) (value : Value) : Table Value :=
  (name, value) :: table.filter fun entry => entry.1 != name

end Table

/-- What a contributor was written as. -/
inductive Blueprint where
  | taskSet (members : List Task)
  | dependencySet (values : List Declaration)
  | staticBuildable (value : Declaration)
  | failingBuildable (name message : String)
  | failingTasks (name message : String)
  | scripted (script : Script)
  /-- A contributor that nothing leads to any more. -/
  | vacant

/-- The contributors that one written like this leads to without a script. -/
def Blueprint.members : Blueprint → List ContributorId
  | .dependencySet values => values.filterMap Declaration.contributor?
  | .staticBuildable value => value.contributor?.toList
  | _ => []

/-- What a name of a declaration stands for. -/
inductive NamedDeclaration where
  /-- A contributor that was named where its script is written; it takes every shape. -/
  | scripted (place : ContributorId)
  /-- Anything else, another name of a scripted contributor included; it stays as it was
  declared. -/
  | fixed (declaration : Declaration)

namespace NamedDeclaration

/-- What a name stands for that is given to an expression with this value. -/
def ofExpression : Expression → Declaration → NamedDeclaration
  | .scripted _ _, .contributor _ place => .scripted place
  | _, declaration => .fixed declaration

/-- The declaration, under a shape if it can take one. -/
def under (shape : Shape) : NamedDeclaration → Declaration
  | .scripted place => .contributor shape place
  | .fixed declaration => declaration

/-- The place of a contributor that was named where its script is written. -/
def scriptedPlace? : NamedDeclaration → Option ContributorId
  | .scripted place => some place
  | .fixed _ => none

end NamedDeclaration

/-- Where and how a task is executed. -/
structure ExecuterSetup where
  lock : Name
  store : Name
  names : TypeNames
  services : Services
  settings : ExecutionSettings

/-- A task of a scenario. -/
abbrev ScenarioTask := ConfiguredTask Body Parameters

/-- The state of a scenario. -/
structure State where
  /-- The value of the next identity. -/
  nextIdentity : Nat
  blueprints : List Blueprint
  /-- The visits of contributors so far, one entry for each. -/
  visits : List ContributorId
  types : Table (TaskType Body)
  tasks : Table ScenarioTask
  /-- The declared dependencies of tasks. -/
  declared : List (Identity × List Declaration)
  works : Table WorkAction
  named : Table NamedDeclaration
  contexts : Table Context
  parameters : Table (IsolatedParameters Parameters)
  /-- The live graphs of parameters, by their places. -/
  graphs : List Json
  snapshots : Table Json
  stores : Table (Store Body)
  /-- The cell that the last successful look-up of a type in a store settled. -/
  lastCells : List ((Name × Identity) × CellId)
  projects : Table Project
  executers : Table ExecuterSetup
  log : List Json
  notes : List String
  events : List Event

/-- A scenario in which nothing is defined. -/
def State.start : State where
  nextIdentity := 0
  blueprints := []
  visits := []
  types := []
  tasks := []
  declared := []
  works := []
  named := []
  contexts := []
  parameters := []
  graphs := []
  snapshots := []
  stores := []
  lastCells := []
  projects := []
  executers := []
  log := []
  notes := []
  events := []

/-! ## Evaluating declarations -/

/-- Contributors being made: the next identity, the next place, and the contributors made so far
with what they were written as, the last one first.  What a script writes inline is made in a walk
only. -/
structure Making where
  walking : Bool
  nextIdentity : Nat
  nextPlace : ContributorId
  made : List (Blueprint × Contributor)

namespace Making

/-- Gives a new contributor its place. -/
def push
    (making : Making)
    (blueprint : Blueprint)
    (contributor : Contributor) :
    ContributorId × Making :=
  (making.nextPlace,
    { making with
      nextPlace := making.nextPlace + 1
      made := (blueprint, contributor) :: making.made })

/-- What the contributors made were written as, in order. -/
def blueprints (making : Making) : List Blueprint := (making.made.map Prod.fst).reverse

/-- The contributors made, in order. -/
def contributors (making : Making) : Contributors := (making.made.map Prod.snd).reverse

/-- Makes a new work action. -/
def work (making : Making) (kind : WorkKind) (description : String) : WorkAction × Making :=
  (⟨⟨making.nextIdentity⟩, kind, description⟩,
    { making with nextIdentity := making.nextIdentity + 1 })

end Making

/-- A declaration of something that has not been defined. -/
def undefined (name : Name) : Declaration := .other ⟨"undefined", name, .null⟩

/-- The task with a name, as a declaration sees it. -/
def State.task? (state : State) (name : Name) : Option Task :=
  (state.tasks.find? name).map ConfiguredTask.task

/-- The tasks with these names. -/
def State.tasksNamed (state : State) (names : List Name) : List Task :=
  names.filterMap state.task?

mutual

/-- Evaluates a declaration, making the contributors and work actions it needs. -/
def evaluate (state : State) : Expression → Making → Declaration × Making
  | .task name, making =>
      match state.task? name with
      | some target => (.task target, making)
      | none => (undefined name, making)
  | .tasks names, making =>
      let members := state.tasksNamed names
      let (place, making) := making.push (.taskSet members) (.taskSet members)
      (.contributor .tasks place, making)
  | .work name, making =>
      match state.works.find? name with
      | some action => (.work action, making)
      | none => (undefined name, making)
  | .newWork kind description, making =>
      let (action, making) := making.work kind description
      (.work action, making)
  | .set values, making =>
      let (values, making) := evaluateAll state values making
      let (place, making) := making.push (.dependencySet values) (.dependencySet values)
      (.contributor .container place, making)
  | .staticBuildable value, making =>
      let (value, making) := evaluate state value making
      let (place, making) := making.push (.staticBuildable value) (.staticBuildable value)
      (.contributor .buildable place, making)
  | .failingBuildable name message, making =>
      let (place, making) :=
        making.push (.failingBuildable name message)
          (.failingBuildable name (.ofText message))
      (.contributor .buildable place, making)
  | .failingTasks name message, making =>
      let (place, making) :=
        making.push (.failingTasks name message) (.failingTasks name (.ofText message))
      (.contributor .tasks place, making)
  | .foreign value, making => (.other value, making)
  | .scripted script shape, making =>
      let (contributor, making) :=
        if making.walking then contributorOf state script making else (.idle, making)
      let (place, making) := making.push (.scripted script) contributor
      (.contributor shape place, making)
  | .reference name shape, making =>
      match state.named.find? name with
      | some meant => (meant.under shape, making)
      | none => (undefined name, making)

/-- Evaluates declarations in order. -/
def evaluateAll (state : State) : List Expression → Making → List Declaration × Making
  | [], making => ([], making)
  | value :: values, making =>
      let (first, making) := evaluate state value making
      let (rest, making) := evaluateAll state values making
      (first :: rest, making)

/-- The contributor that a script describes. -/
def contributorOf (state : State) : Script → Making → Contributor × Making
  | .mk name calls build failure tasks withOwner, making =>
      let (visit, making) := visitOf state calls making
      let (build, making) :=
        match build with
        | none => ((.ok (undefined "build"), making) : Except Cause Declaration × Making)
        | some value =>
            let (declaration, making) := evaluate state value making
            (.ok declaration, making)
      let members := state.tasksNamed tasks
      ({ displayName := fun shape => name.getD shape.defaultName
         tasks := fun owner =>
          match failure with
          | some cause => .error cause
          | none => .ok (if withOwner then owner.toList ++ members else members)
         build :=
          match failure with
          | some cause => .error cause
          | none => build
         visit },
        making)

/-- The visit in which a script's calls are made, given the owner. -/
def visitOf (state : State) : List Call → Making → (Option Task → Visit) × Making
  | [], making => (fun _ => .finish, making)
  | call :: calls, making =>
      let (first, making) := callOf state call making
      let (rest, making) := visitOf state calls making
      (fun owner => first owner (rest owner), making)

/-- A call, given the owner and what follows it. -/
def callOf (state : State) : Call → Making → (Option Task → Visit → Visit) × Making
  | .add value, making =>
      let (declaration, making) := evaluate state value making
      (fun _ next => .add declaration (Visit.orRaise next), making)
  | .maybeAdd value, making =>
      let (declaration, making) := evaluate state value making
      (fun _ next => .maybeAdd declaration (Visit.orRaise next), making)
  | .fail cause, making => (fun _ next => .fail cause next, making)
  | .rescue value, making =>
      let (declaration, making) := evaluate state value making
      (fun _ next => .add declaration (Visit.orFail next), making)
  | .owner, making =>
      (fun owner next =>
        match owner with
        | none => next
        | some target => .add (.task target) (Visit.orRaise next),
        making)
  | .raise error, making => (fun _ _ => .raise error, making)
  | .dependsOn name value, making =>
      let (declaration, making) := evaluate state value making
      (fun _ next =>
        match state.task? name with
        | none => next
        | some target => .declare target.identity declaration next,
        making)

end

/-- The contributor that a blueprint describes. -/
def Blueprint.contributor (state : State) (making : Making) : Blueprint → Contributor × Making
  | .taskSet members => (.taskSet members, making)
  | .dependencySet values => (.dependencySet values, making)
  | .staticBuildable value => (.staticBuildable value, making)
  | .failingBuildable name message => (.failingBuildable name (.ofText message), making)
  | .failingTasks name message => (.failingTasks name (.ofText message), making)
  | .scripted script => contributorOf state script making
  | .vacant => (.idle, making)

/-- The contributors that blueprints describe, in order. -/
def makeAll (state : State) : List Blueprint → Making → Contributors × Making
  | [], making => ([], making)
  | blueprint :: blueprints, making =>
      let (contributor, making) := blueprint.contributor state making
      let (contributors, making) := makeAll state blueprints making
      (contributor :: contributors, making)

namespace State

/-- Nothing made yet, in a walk or outside. -/
def making (state : State) (walking : Bool) : Making :=
  ⟨walking, state.nextIdentity, state.blueprints.length, []⟩

/-- The blueprints to keep of those from a place on, when these places are needed, and all places
needed then.  A member of a contributor is made before it, so one pass from the last contributor to
the first finds everything that is needed.  What is not needed leaves its place vacant, and no place
at the end. -/
def sweep (needed : List ContributorId) :
    ContributorId → List Blueprint → List Blueprint × List ContributorId
  | _, [] => ([], needed)
  | place, blueprint :: later =>
      let (kept, needed) := sweep needed (place + 1) later
      if needed.contains place then (blueprint :: kept, blueprint.members ++ needed)
      else if kept.isEmpty then ([], needed)
      else (.vacant :: kept, needed)

/-- Keeps the identities that were made, and the contributors that these declarations lead to.  What
a script writes inline is not among them, because each walk makes it anew. -/
def keep (state : State) (making : Making) (declarations : List Declaration) : State :=
  { state with
    nextIdentity := making.nextIdentity
    blueprints :=
      state.blueprints ++
        (sweep (declarations.filterMap Declaration.contributor?) state.blueprints.length
          making.blueprints).1 }

/-- Evaluates a declaration and keeps what it leads to. -/
def declaration (state : State) (value : Expression) : Declaration × State :=
  let (result, making) := evaluate state value (state.making false)
  (result, state.keep making [result])

/-- Evaluates declarations and keeps what they lead to. -/
def declarations (state : State) (values : List Expression) : List Declaration × State :=
  let (results, making) := evaluateAll state values (state.making false)
  (results, state.keep making results)

/-- All contributors, and what was made for them. -/
def allContributors (state : State) : Contributors × Making :=
  let (contributors, making) := makeAll state state.blueprints (state.making true)
  (contributors ++ making.contributors, making)

/-- A declaration as messages show it. -/
def describe (state : State) (declaration : Declaration) : String :=
  declaration.describe state.allContributors.1

/-- Declarations as messages show them, each with whether it can be a dependency. -/
def describeAll (state : State) (declarations : List Declaration) : List (String × Bool) :=
  let contributors := state.allContributors.1
  declarations.map fun declaration =>
    (declaration.describe contributors, declaration.isSupported)

/-- The declared dependencies of a task. -/
def dependenciesOf (state : State) (identity : Identity) : List Declaration :=
  (List.lookup identity state.declared).getD []

/-- Sets the declared dependencies of a task. -/
def setDependencies (state : State) (identity : Identity) (values : List Declaration) : State :=
  { state with
    declared := (identity, values) :: state.declared.filter fun entry => entry.1 != identity }

/-- Declares further dependencies of a task. -/
def declareOn (state : State) (identity : Identity) (values : List Declaration) : State :=
  state.setDependencies identity (state.dependenciesOf identity ++ values)

/-- Takes over what a walk left in its context, of which `before` visits were there before: the
visits, the events, and the dependencies that contributors declared.  Contributors that only the
walk could reach are forgotten, unless one of these dependencies leads to them. -/
def afterWalk
    (state : State)
    (making : Making)
    (before : Nat)
    (context : Context) :
    Context × State :=
  let kept := state.keep making (context.declared.map Prod.snd)
  let isKept (place : ContributorId) : Bool := decide (place < kept.blueprints.length)
  let declaring :=
    context.declared.foldl (fun state entry => state.declareOn entry.1 [entry.2]) kept
  ({ context with
      visited := context.visited.filter isKept
      retained := context.retained.filter fun entry => isKept entry.2
      events := []
      declared := [] },
    { declaring with
      visits :=
        state.visits ++ (context.visited.drop before).filter isKept
      events := state.events ++ context.events })

/-- The task type with a name. -/
def type? (state : State) (name : Name) : Option (TaskType Body) := state.types.find? name

/-- The store with a name; it is empty when it is first named. -/
def store (state : State) (name : Name) : Store Body := (state.stores.find? name).getD .empty

/-- Replaces the store with a name. -/
def setStore (state : State) (name : Name) (store : Store Body) : State :=
  { state with stores := state.stores.put name store }

/-- The project whose lock has a name; it is fresh when it is first named. -/
def project (state : State) (name : Name) : Project := (state.projects.find? name).getD .fresh

/-- Replaces the project whose lock has a name. -/
def setProject (state : State) (name : Name) (project : Project) : State :=
  { state with projects := state.projects.put name project }

/-- Changes the project whose lock has a name. -/
def onProject (state : State) (name : Name) (change : Project → Project) : State :=
  state.setProject name (change (state.project name))

/-- The values of a live graph. -/
def graph (state : State) (graph : GraphId) : Json := state.graphs[graph]?.getD .null

/-- Replaces the values of a live graph. -/
def setGraph (state : State) (graph : GraphId) (values : Json) : State :=
  { state with graphs := state.graphs.set graph values }

/-- Reports events. -/
def report (state : State) (events : List Event) : State :=
  { state with events := state.events ++ events }

/-- Looks a type up in a store. -/
def lookup (state : State) (name : Name) (type : TaskType Body) : Store.Found Body × State :=
  let (found, store) := (state.store name).lookup type
  (found, (state.setStore name store).report found.events)

end State

end TaskDispatch.Scenario
