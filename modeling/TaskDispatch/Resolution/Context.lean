import TaskDispatch.Resolution.Declaration

/-!
# Contexts of resolution

A context accumulates the nodes reachable from the declarations added to it.  Each node is recorded
once, in the order of discovery, and its key is kept beside it to know it again; each contributor is
visited once, whatever shape it is presented under; so shared and cyclic contributors are no
trouble.  What goes wrong inside a contributor is recorded and does not stop the walk; a value that
is no dependency ends the call that added it.

`expand` walks from one declaration.  Its bound is on the depth of nested visits, which never
exceeds the number of contributors, because every nested visit is of another contributor.
-/

namespace TaskDispatch

/-- A failure met on the way, with the declaration being visited when it was met. -/
structure ResolutionFailure where
  declaration : String
  cause : Cause
deriving DecidableEq, Repr

/-- A failure as messages show it. -/
def ResolutionFailure.display (failure : ResolutionFailure) : String :=
  failure.declaration ++ ": " ++ failure.cause.line

/-- The declaration named when none is being visited. -/
def topLevel : String := "<top-level>"

/-- What has been discovered so far. -/
structure Context where
  /-- The task whose dependencies are visited, if there is one. -/
  owner : Option Task
  nodes : List Node
  /-- The keys of the nodes, which tell whether a node has been discovered. -/
  seen : List NodeKey
  /-- The contributors visited, in order. -/
  visited : List ContributorId
  /-- The contributors visited, in order, each under the shape it was first added with.  They are
  held on to as long as the context is, so that no other contributor takes the place of one. -/
  retained : List (Shape × ContributorId)
  failures : List ResolutionFailure
  /-- The names of the declarations being visited, the innermost first. -/
  visiting : List String
  events : List Event
  /-- The dependencies that contributors declared on tasks while they were visited. -/
  declared : List (Identity × Declaration)

namespace Context

/-- A context in which nothing has been discovered. -/
def fresh (owner : Option Task) : Context := ⟨owner, [], [], [], [], [], [], [], []⟩

/-- The path of the owner. -/
def ownerPath (context : Context) : Option String := context.owner.map Task.path

/-- True if the node with this key has been discovered. -/
def contains (context : Context) (key : NodeKey) : Bool := context.seen.contains key

/-- True if the contributor has been visited. -/
def hasVisited (context : Context) (place : ContributorId) : Bool :=
  context.visited.contains place

/-- The tasks discovered, in order. -/
def tasks (context : Context) : List Task := context.nodes.filterMap Node.task?

/-- The event of a discovery. -/
def discovered (node : Node) : Event :=
  ⟨.trace, "Resolved dependency node", [("node", .text node.display)]⟩

/-- Records a node that has not been discovered before. -/
def record (context : Context) (node : Node) : Context :=
  if context.contains node.key then context
  else
    { context with
      nodes := context.nodes ++ [node]
      seen := context.seen ++ [node.key]
      events := context.events ++ [discovered node] }

/-- Records tasks in order. -/
def recordTasks (context : Context) (members : List Task) : Context :=
  members.foldl (fun context member => context.record (.task member)) context

/-- The declaration being visited. -/
def currentDeclaration (context : Context) : String := context.visiting.head?.getD topLevel

/-- The event of a failure. -/
def failed (owner : Option String) (declaration : String) (cause : Cause) : Event :=
  ⟨.debug, "Failed to visit dependency",
    optionalField "task" owner ++
      [("declaration", .text declaration), ("error", .text cause.outermost)]⟩

/-- Records a failure of the declaration being visited. -/
def visitFailure (context : Context) (cause : Cause) : Context :=
  { context with
    failures := context.failures ++ [⟨context.currentDeclaration, cause⟩]
    events :=
      context.events ++ [failed context.ownerPath context.currentDeclaration cause] }

/-- Enters the visit of a contributor. -/
def enter
    (context : Context)
    (shape : Shape)
    (place : ContributorId)
    (name : String) :
    Context :=
  { context with
    visited := context.visited ++ [place]
    retained := context.retained ++ [(shape, place)]
    visiting := name :: context.visiting }

/-- Leaves the innermost visit. -/
def leave (context : Context) : Context :=
  { context with visiting := context.visiting.tail }

/-- Notes a dependency that a contributor declared on a task. -/
def declare (context : Context) (task : Identity) (declaration : Declaration) : Context :=
  { context with declared := context.declared ++ [(task, declaration)] }

/-- The event of passing over a value that is no dependency. -/
def ignored (value : ForeignValue) : Event :=
  ⟨.trace, "Ignoring value that is not a dependency", [("type_name", .text value.typeName)]⟩

/-- Adds a declaration with `expand`, unless it is no dependency. -/
def maybeAddWith
    (expand : Context → Declaration → Context × AddResult)
    (context : Context) :
    Declaration → Context × AddResult
  | .other value => ({ context with events := context.events ++ [ignored value] }, .ok ())
  | declaration => expand context declaration

/-- Makes the calls of a visit, adding declarations with `expand`. -/
def follow
    (expand : Context → Declaration → Context × AddResult)
    (context : Context) :
    Visit → Context × AddResult
  | .finish => (context, .ok ())
  | .raise error => (context, .error error)
  | .add declaration next =>
      let step := expand context declaration
      follow expand step.1 (next step.2)
  | .maybeAdd declaration next =>
      let step := maybeAddWith expand context declaration
      follow expand step.1 (next step.2)
  | .fail cause next => follow expand (context.visitFailure cause) next
  | .declare task declaration next => follow expand (context.declare task declaration) next

/-- What a contributor does under a shape, once its visit has been entered. -/
def contribute
    (expand : Context → Declaration → Context × AddResult)
    (context : Context)
    (contributor : Contributor) :
    Shape → Context × AddResult
  | .tasks =>
      match contributor.tasks context.owner with
      | .ok members => (context.recordTasks members, .ok ())
      | .error cause => (context.visitFailure cause, .ok ())
  | .buildable =>
      match contributor.build with
      | .ok declaration => expand context declaration
      | .error cause => (context.visitFailure cause, .ok ())
  | .container => follow expand context (contributor.visit context.owner)
  | .transformation => follow expand context (contributor.visit context.owner)

/-- Visits a contributor for the first time. -/
def visitContributor
    (expand : Context → Declaration → Context × AddResult)
    (context : Context)
    (shape : Shape)
    (place : ContributorId)
    (contributor : Contributor) :
    Context × AddResult :=
  let entered := context.enter shape place (contributor.displayName shape)
  let step := contribute expand entered contributor shape
  (step.1.leave, step.2)

/-- Walks from a declaration, with at most `depth` nested visits. -/
def expand
    (contributors : Contributors) :
    Nat → Context → Declaration → Context × AddResult
  | _, context, .task target => (context.record (.task target), .ok ())
  | _, context, .work action => (context.record (.work action), .ok ())
  | _, context, .other value => (context, .error (value.unsupported context.ownerPath))
  | 0, context, .contributor _ _ => (context, .ok ())
  | depth + 1, context, .contributor shape place =>
      if context.hasVisited place then (context, .ok ())
      else
        match contributors[place]? with
        | none => (context, .ok ())
        | some contributor =>
            visitContributor (expand contributors depth) context shape place contributor

/-- Adds a declaration. -/
def add
    (contributors : Contributors)
    (context : Context)
    (declaration : Declaration) :
    Context × AddResult :=
  expand contributors (contributors.length + 1) context declaration

/-- Adds a declaration, unless it is no dependency. -/
def maybeAdd
    (contributors : Contributors)
    (context : Context)
    (declaration : Declaration) :
    Context × AddResult :=
  maybeAddWith (expand contributors (contributors.length + 1)) context declaration

/-- The event of leaving out a declaration that added a value that is no dependency. -/
def skipped (error : UnsupportedDependency) : Event :=
  ⟨.warn, "Skipping unsupported dependency declaration", [("error", .text error.message)]⟩

/-- Adds declarations in order and collects the errors; an error ends only its own declaration. -/
def addAll
    (contributors : Contributors)
    (context : Context) :
    List Declaration → Context × List UnsupportedDependency
  | [] => (context, [])
  | declaration :: declarations =>
      let step := context.add contributors declaration
      match step.2 with
      | .ok _ => addAll contributors step.1 declarations
      | .error error =>
          let rest :=
            addAll contributors { step.1 with events := step.1.events ++ [skipped error] }
              declarations
          (rest.1, error :: rest.2)

end Context

end TaskDispatch
