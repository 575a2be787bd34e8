import TaskDispatch.Proofs.Resolution.Answers
import TaskDispatch.Proofs.Resolution.Failures

/-!
# Tours, and where an error cuts them short

A tour goes depth first and from left to right through everything that calls lead to, visits each
contributor once, and goes on past values that are no dependency.  It keeps a list of the calls that
are still to be made, each with the name of the declaration that makes it; a contributor that is
visited puts its calls in front.  `tour` is this list of what is seen, computed without a context.

Contributors that pass errors on make a context stop at the first value that is no dependency.  The
main statement, `Context.stops_at_first_foreign`, is that the error is about this value, and that
the context holds what the tour sees before it and nothing else.  `Walk.toured` carries the proof:
whatever calls are left when an errand begins, a walk of the errand sees what the tour sees of it.

To return the first error of one's calls means here to return it at once.  A contributor that makes
the calls that are left before it returns the error is among those of `Contributor.MakesCalls`, but
not of those of `Visit.PassesErrorsOn`: it would expand what comes after the value, and the context
would hold more than what was met before it.  In turn a visit that passes errors on may declare
dependencies of tasks between its calls, which adds nothing to what a tour sees.
-/

namespace TaskDispatch

/-! ## Calls that are made as long as nothing fails -/

namespace Visit

/-- True of a visit that ends with the first error of its additions at once, and raises none of its
own. -/
def PassesErrorsOn : Visit → Prop
  | .finish => True
  | .raise _ => False
  | .add _ next => (∀ error, next (.error error) = .raise error) ∧ (next (.ok ())).PassesErrorsOn
  | .maybeAdd _ next =>
      (∀ error, next (.error error) = .raise error) ∧ (next (.ok ())).PassesErrorsOn
  | .fail _ next => next.PassesErrorsOn
  | .declare _ _ next => next.PassesErrorsOn

/-- The calls of a visit whose additions succeed, in order. -/
def calls : Visit → List ContextCall
  | .finish => []
  | .raise _ => []
  | .add declaration next => .add declaration :: (next (.ok ())).calls
  | .maybeAdd declaration next => .maybeAdd declaration :: (next (.ok ())).calls
  | .fail cause next => .fail cause :: next.calls
  | .declare _ _ next => next.calls

theorem passesErrorsOn_addAll (declarations : List Declaration) :
    (addAll declarations).PassesErrorsOn := by
  induction declarations with
  | nil => trivial
  | cons declaration declarations ih => exact ⟨fun _ => rfl, ih⟩

@[simp]
theorem calls_addAll (declarations : List Declaration) :
    (addAll declarations).calls = declarations.map .add := by
  induction declarations with
  | nil => rfl
  | cons declaration declarations ih =>
      rw [List.map_cons, ← ih]
      rfl

end Visit

namespace Contributor

/-- The calls that a contributor makes under a shape as long as nothing fails. -/
def calls (contributor : Contributor) (owner : Option Task) : Shape → List ContextCall
  | .tasks =>
      match contributor.tasks owner with
      | .ok members => members.map fun member => .add (.task member)
      | .error cause => [.fail cause]
  | .buildable =>
      match contributor.build with
      | .ok declaration => [.add declaration]
      | .error cause => [.fail cause]
  | .container => (contributor.visit owner).calls
  | .transformation => (contributor.visit owner).calls

variable {contributor : Contributor} {owner : Option Task}

theorem calls_performance (shape : Shape) :
    (contributor.performance owner shape).calls = contributor.calls owner shape := by
  cases shape with
  | tasks =>
      unfold performance calls
      cases contributor.tasks owner with
      | ok members => simp
      | error cause => rfl
  | buildable =>
      unfold performance calls
      cases contributor.build with
      | ok declaration => rfl
      | error cause => rfl
  | container => rfl
  | transformation => rfl

theorem passesErrorsOn_performance
    (strict : (contributor.visit owner).PassesErrorsOn)
    (shape : Shape) :
    (contributor.performance owner shape).PassesErrorsOn := by
  cases shape with
  | tasks =>
      unfold performance
      cases contributor.tasks owner with
      | ok members => exact Visit.passesErrorsOn_addAll _
      | error cause => trivial
  | buildable =>
      unfold performance
      cases contributor.build with
      | ok declaration => exact Visit.passesErrorsOn_addAll _
      | error cause => trivial
  | container => exact strict
  | transformation => exact strict

end Contributor

/-! ## Tours -/

/-- What a tour comes to. -/
inductive Sight where
  /-- The visit of a contributor begins. -/
  | visit (shape : Shape) (place : ContributorId)
  | met (node : Node)
  | failed (failure : ResolutionFailure)
  /-- A value that is no dependency is added as one. -/
  | foreign (value : ForeignValue)

namespace Sight

def visit? : Sight → Option (Shape × ContributorId)
  | .visit shape place => some (shape, place)
  | _ => none

def node? : Sight → Option Node
  | .met node => some node
  | _ => none

def failure? : Sight → Option ResolutionFailure
  | .failed failure => some failure
  | _ => none

/-- The contributors that are visited, in order. -/
def visits (sights : List Sight) : List (Shape × ContributorId) := sights.filterMap visit?

/-- The tasks and work actions that are met, in order and as often as they are met. -/
def nodes (sights : List Sight) : List Node := sights.filterMap node?

/-- The failures that are met, in order. -/
def failures (sights : List Sight) : List ResolutionFailure := sights.filterMap failure?

section Views

variable (sight : Sight) (earlier later : List Sight)

@[simp]
theorem visits_nil : visits [] = [] := rfl

@[simp]
theorem visits_cons : visits (sight :: later) = sight.visit?.toList ++ visits later := by
  cases sight <;> rfl

@[simp]
theorem visits_append : visits (earlier ++ later) = visits earlier ++ visits later :=
  List.filterMap_append

@[simp]
theorem nodes_nil : nodes [] = [] := rfl

@[simp]
theorem nodes_cons : nodes (sight :: later) = sight.node?.toList ++ nodes later := by
  cases sight <;> rfl

@[simp]
theorem nodes_append : nodes (earlier ++ later) = nodes earlier ++ nodes later :=
  List.filterMap_append

@[simp]
theorem failures_nil : failures [] = [] := rfl

@[simp]
theorem failures_cons :
    failures (sight :: later) = sight.failure?.toList ++ failures later := by
  cases sight <;> rfl

@[simp]
theorem failures_append : failures (earlier ++ later) = failures earlier ++ failures later :=
  List.filterMap_append

end Views

end Sight

/-- A call that is still to be made, with the name of the declaration that makes it. -/
abbrev PendingCall := String × ContextCall

/-- How many steps a tour takes at most for calls, apart from what the calls lead to. -/
def tourSteps : List PendingCall → Nat
  | [] => 0
  | (_, .add _) :: later => tourSteps later + 1
  | (_, .maybeAdd _) :: later => tourSteps later + 2
  | (_, .fail _) :: later => tourSteps later + 1

/-- How many contributors are not among those visited. -/
def remaining (contributors : Contributors) (visited : List ContributorId) : Nat :=
  (Finset.range contributors.length \ visited.toFinset).card

theorem remaining_lt
    {contributors : Contributors}
    {visited : List ContributorId}
    {place : ContributorId}
    {contributor : Contributor}
    (fresh : place ∉ visited)
    (present : contributors[place]? = some contributor) :
    remaining contributors (visited ++ [place]) < remaining contributors visited := by
  let context : Context := { Context.fresh none with visited := visited }
  have unseen : context.hasVisited place = false := by
    rw [← Bool.not_eq_true, context.hasVisited_iff]
    exact fresh
  have less :
      (context.enter .tasks place "").unvisited contributors < context.unvisited contributors :=
    context.unvisited_enter unseen (List.getElem?_eq_some_iff.mp present).1
  exact less

/-- What is seen when calls are made, of which each leads to its own before the next is made. -/
def tour
    (contributors : Contributors)
    (owner : Option Task)
    (visited : List ContributorId) :
    List PendingCall → List Sight
  | [] => []
  | (name, .fail cause) :: later =>
      .failed ⟨name, cause⟩ :: tour contributors owner visited later
  | (_, .maybeAdd (.other _)) :: later => tour contributors owner visited later
  | (name, .maybeAdd declaration) :: later =>
      tour contributors owner visited ((name, .add declaration) :: later)
  | (_, .add (.task target)) :: later =>
      .met (.task target) :: tour contributors owner visited later
  | (_, .add (.work action)) :: later =>
      .met (.work action) :: tour contributors owner visited later
  | (_, .add (.other value)) :: later => .foreign value :: tour contributors owner visited later
  | (_, .add (.contributor shape place)) :: later =>
      if place ∈ visited then tour contributors owner visited later
      else
        match _ : contributors[place]? with
        | none => tour contributors owner visited later
        | some contributor =>
            .visit shape place ::
              tour contributors owner (visited ++ [place])
                ((contributor.calls owner shape).map (contributor.displayName shape, ·) ++ later)
termination_by pending => (remaining contributors visited, tourSteps pending)
decreasing_by
  -- Only the visit of a contributor may leave more calls to be made than there were.
  on_goal 9 => exact .left _ _ (remaining_lt ‹_› ‹_›)
  all_goals
    refine .right _ ?_
    simp only [tourSteps]
    omega

section Steps

variable
  {contributors : Contributors}
  {owner : Option Task}
  {visited : List ContributorId}
  {name : String}
  {later : List PendingCall}

theorem tour_node
    {declaration : Declaration}
    {node : Node}
    (isNode : declaration.node? = some node) :
    tour contributors owner visited ((name, .add declaration) :: later) =
      .met node :: tour contributors owner visited later := by
  cases declaration with
  | task target =>
      cases isNode
      rw [tour]
  | work action =>
      cases isNode
      rw [tour]
  | _ => cases isNode

theorem tour_foreign (value : ForeignValue) :
    tour contributors owner visited ((name, .add (.other value)) :: later) =
      .foreign value :: tour contributors owner visited later := by
  rw [tour]

theorem tour_fail (cause : Cause) :
    tour contributors owner visited ((name, .fail cause) :: later) =
      .failed ⟨name, cause⟩ :: tour contributors owner visited later := by
  rw [tour]

theorem tour_ignored (value : ForeignValue) :
    tour contributors owner visited ((name, .maybeAdd (.other value)) :: later) =
      tour contributors owner visited later := by
  rw [tour]

theorem tour_known
    {shape : Shape}
    {place : ContributorId}
    (known : place ∈ visited ∨ contributors.length ≤ place) :
    tour contributors owner visited ((name, .add (.contributor shape place)) :: later) =
      tour contributors owner visited later := by
  rw [tour]
  split
  · rfl
  · next fresh =>
      have absent := List.getElem?_eq_none (known.resolve_left fresh)
      split
      · rfl
      · next present => cases absent.symm.trans present

theorem tour_first
    {shape : Shape}
    {place : ContributorId}
    {contributor : Contributor}
    (fresh : place ∉ visited)
    (present : contributors[place]? = some contributor) :
    tour contributors owner visited ((name, .add (.contributor shape place)) :: later) =
      .visit shape place ::
        tour contributors owner (visited ++ [place])
          ((contributor.calls owner shape).map (contributor.displayName shape, ·) ++ later) := by
  rw [tour, if_neg fresh]
  split
  · next absent => cases present.symm.trans absent
  · next other found =>
      cases present.symm.trans found
      rfl

theorem tour_supported
    {declaration : Declaration}
    (supported : declaration.isSupported = true) :
    tour contributors owner visited ((name, .maybeAdd declaration) :: later) =
      tour contributors owner visited ((name, .add declaration) :: later) := by
  cases declaration with
  | other value => cases supported
  | _ => rw [tour]; nofun

end Steps

/-! ## Walks see what tours see -/

/-- The calls that an errand makes as long as nothing fails, with the name of who makes them. -/
def Errand.pending (name : String) : Errand → List PendingCall
  | .call made => [(name, made)]
  | .follow visit => visit.calls.map (name, ·)

/-- True of an errand that ends with the first error of its additions. -/
def Errand.PassesErrorsOn : Errand → Prop
  | .call _ => True
  | .follow visit => visit.PassesErrorsOn

/-- True if sights without a value that is no dependency are all that a context has seen on its way
to another. -/
structure Saw (context : Context) (seen : List Sight) (after : Context) : Prop where
  supported : ∀ value, .foreign value ∉ seen
  nodes : after.nodes = Node.recordAll context.nodes (Sight.nodes seen)
  failures : after.failures = context.failures ++ Sight.failures seen
  retained : after.retained = context.retained ++ Sight.visits seen
  visited : after.visited = context.visited ++ (Sight.visits seen).map Prod.snd

/-- A context with the same contents has seen nothing more. -/
theorem Saw.nothing
    {context after : Context}
    (nodes : after.nodes = context.nodes)
    (failures : after.failures = context.failures)
    (retained : after.retained = context.retained)
    (visited : after.visited = context.visited) :
    Saw context [] after := by
  constructor
  · exact fun _ => List.not_mem_nil
  · exact nodes
  · rw [failures, Sight.failures_nil, List.append_nil]
  · rw [retained, Sight.visits_nil, List.append_nil]
  · rw [visited, Sight.visits_nil, List.map_nil, List.append_nil]

/-- What is seen in a visit is seen after the visit has begun. -/
theorem Saw.visit
    {context after : Context}
    {shape : Shape}
    {place : ContributorId}
    {name : String}
    {seen : List Sight}
    (saw : Saw (context.enter shape place name) seen after) :
    Saw context (.visit shape place :: seen) after.leave := by
  constructor
  · simpa using saw.supported
  · rw [Context.leave_nodes, saw.nodes]
    rfl
  · exact saw.failures
  · rw [Context.leave_retained, saw.retained, Context.enter_retained, List.append_assoc]
    rfl
  · rw [Context.leave_visited, saw.visited, Context.enter_visited, List.append_assoc]
    rfl

theorem Saw.append
    {context middle after : Context}
    {seen later : List Sight}
    (first : Saw context seen middle)
    (second : Saw middle later after) :
    Saw context (seen ++ later) after := by
  constructor
  · intro value member
    rcases List.mem_append.mp member with earlier | later
    · exact first.supported value earlier
    · exact second.supported value later
  · rw [second.nodes, first.nodes, Sight.nodes_append, Node.recordAll_append]
  · rw [second.failures, first.failures, Sight.failures_append, List.append_assoc]
  · rw [second.retained, first.retained, Sight.visits_append, List.append_assoc]
  · rw [second.visited, first.visited, Sight.visits_append, List.map_append, List.append_assoc]

/-- What becomes of calls made on a context, against a tour that makes them and others later: the
context sees what the tour sees of them, up to the first value that is no dependency. -/
inductive Toured
    (contributors : Contributors)
    (context : Context)
    (pending : List PendingCall)
    (after : Context) :
    AddResult → Prop where
  /-- The tour goes on with the calls made later. -/
  | completed (seen : List Sight)
      (saw : Saw context seen after)
      (onward : ∀ later,
        tour contributors context.owner context.visited (pending ++ later) =
          seen ++ tour contributors context.owner after.visited later) :
      Toured contributors context pending after (.ok ())
  /-- The tour comes to a value that is no dependency. -/
  | stopped (seen : List Sight) (value : ForeignValue)
      (saw : Saw context seen after)
      (onward : ∀ later, ∃ unseen,
        tour contributors context.owner context.visited (pending ++ later) =
          seen ++ .foreign value :: unseen) :
      Toured contributors context pending after
        (.error (value.unsupported (context.owner.map Task.path)))

namespace Toured

variable
  {contributors : Contributors}
  {context middle after : Context}
  {pending more : List PendingCall}
  {result : AddResult}

theorem nothing (saw : Saw context [] after) (visited : after.visited = context.visited) :
    Toured contributors context [] after (.ok ()) := by
  refine .completed [] saw fun later => ?_
  rw [visited]
  rfl

theorem failure (context : Context) (cause : Cause) :
    Toured contributors context [(context.currentDeclaration, .fail cause)]
      (context.visitFailure cause) (.ok ()) := by
  refine .completed [.failed ⟨context.currentDeclaration, cause⟩] ?_ fun later => tour_fail cause
  constructor
  · simp
  · rfl
  · rfl
  · simp [Sight.visit?]
  · simp [Sight.visit?]

/-- The addition of a contributor that is visited for the first time. -/
theorem visit
    {shape : Shape}
    {place : ContributorId}
    {contributor : Contributor}
    (fresh : place ∉ context.visited)
    (present : contributors[place]? = some contributor)
    (inside :
      Toured contributors (context.enter shape place (contributor.displayName shape))
        ((contributor.calls context.owner shape).map (contributor.displayName shape, ·)) after
        result)
    (name : String) :
    Toured contributors context [(name, .add (.contributor shape place))] after.leave result := by
  cases inside with
  | completed seen saw onward =>
      refine .completed (.visit shape place :: seen) saw.visit fun later => ?_
      exact (tour_first fresh present).trans (congrArg _ (onward later))
  | stopped seen value saw onward =>
      refine .stopped (.visit shape place :: seen) value saw.visit fun later => ?_
      rcases onward later with ⟨unseen, stop⟩
      exact ⟨unseen, (tour_first fresh present).trans (congrArg _ stop)⟩

/-- Calls made after others that have succeeded. -/
theorem append
    (first : Toured contributors context pending middle (.ok ()))
    (second : Toured contributors middle more after result)
    (sameOwner : middle.owner = context.owner) :
    Toured contributors context (pending ++ more) after result := by
  cases first with
  | completed seen saw onward =>
      cases second with
      | completed later sawLater onwardLater =>
          refine .completed (seen ++ later) (saw.append sawLater) fun rest => ?_
          rw [List.append_assoc, onward, ← sameOwner, onwardLater, List.append_assoc]
      | stopped later value sawLater onwardLater =>
          rw [sameOwner]
          refine .stopped (seen ++ later) value (saw.append sawLater) fun rest => ?_
          rcases onwardLater rest with ⟨unseen, stop⟩
          exact ⟨unseen, by rw [List.append_assoc, onward, ← sameOwner, stop, List.append_assoc]⟩

/-- Calls that are no longer made, because one before them has failed. -/
theorem cut
    {error : UnsupportedDependency}
    (first : Toured contributors context pending after (.error error))
    (more : List PendingCall) :
    Toured contributors context (pending ++ more) after (.error error) := by
  cases first with
  | stopped seen value saw onward =>
      refine .stopped seen value saw fun later => ?_
      rw [List.append_assoc]
      exact onward (more ++ later)

/-- An addition in a visit that passes errors on, and what follows it. -/
theorem answered
    {name : String}
    {call : ContextCall}
    {next : AddResult → Visit}
    {moments : List Moment}
    {outcome : AddResult}
    (first : Toured contributors context [(name, call)] middle outcome)
    (passes : ∀ error, next (.error error) = .raise error)
    (tail : Walk contributors middle (.follow (next outcome)) moments after result)
    (onward :
      outcome = .ok () →
        Toured contributors middle ((next (.ok ())).calls.map (name, ·)) after result)
    (sameOwner : middle.owner = context.owner) :
    Toured contributors context ((name, call) :: (next (.ok ())).calls.map (name, ·)) after
      result := by
  cases outcome with
  | ok _ => exact first.append (onward rfl) sameOwner
  | error error =>
      rw [passes error] at tail
      cases tail with
      | raise => exact first.cut _

end Toured

/-- A walk of errands that pass errors on sees what the tour sees of them. -/
theorem Walk.toured
    {contributors : Contributors}
    {context after : Context}
    {errand : Errand}
    {moments : List Moment}
    {result : AddResult}
    (walk : Walk contributors context errand moments after result)
    (consistent : context.Consistent)
    (strict : ∀ contributor ∈ contributors, (contributor.visit context.owner).PassesErrorsOn)
    (passes : errand.PassesErrorsOn) :
    Toured contributors context (errand.pending context.currentDeclaration) after result := by
  induction walk with
  | @node context declaration node isNode =>
      have visited : (context.record node).visited = context.visited := context.record_visited node
      refine .completed [.met node] ?_ fun later => ?_
      · constructor
        · simp
        · exact consistent.record_nodes node
        · simp [Context.record_failures, Sight.failure?]
        · simp [Sight.visit?]
        · simp [Sight.visit?]
      · rw [visited]
        exact tour_node isNode
  | foreign =>
      exact .stopped [] _ (.nothing rfl rfl rfl rfl) fun later => ⟨_, tour_foreign _⟩
  | @known context shape place known =>
      rw [Context.hasVisited_iff] at known
      exact .completed [] (.nothing rfl rfl rfl rfl) fun later => tour_known known
  | @first context after shape place contributor moments result fresh present visit ih =>
      have unseen : place ∉ context.visited := by
        rw [← Context.hasVisited_iff, fresh]
        exact Bool.false_ne_true
      have inside := ih consistent strict
        (Contributor.passesErrorsOn_performance
          (strict contributor (List.mem_of_getElem? present)) shape)
      rw [Errand.pending, Contributor.calls_performance] at inside
      exact .visit unseen present inside _
  | ignored => exact .completed [] (.nothing rfl rfl rfl rfl) fun later => tour_ignored _
  | supported supported _ ih =>
      cases ih consistent strict trivial with
      | completed seen saw onward =>
          exact .completed seen saw fun later => (tour_supported supported).trans (onward later)
      | stopped seen value saw onward =>
          refine .stopped seen value saw fun later => ?_
          rcases onward later with ⟨unseen, stop⟩
          exact ⟨unseen, (tour_supported supported).trans stop⟩
  | @failure context cause => exact .failure context cause
  | finish => exact .nothing (.nothing rfl rfl rfl rfl) rfl
  | raise => exact passes.elim
  | add head tail headIH tailIH =>
      refine (headIH consistent strict trivial).answered passes.1 tail ?_ head.owner
      rintro rfl
      have onward := tailIH (head.consistent consistent) (head.owner ▸ strict) passes.2
      rwa [Context.currentDeclaration, head.visiting] at onward
  | maybeAdd head tail headIH tailIH =>
      refine (headIH consistent strict trivial).answered passes.1 tail ?_ head.owner
      rintro rfl
      have onward := tailIH (head.consistent consistent) (head.owner ▸ strict) passes.2
      rwa [Context.currentDeclaration, head.visiting] at onward
  | @fail context after cause next moments result _ ih =>
      exact (Toured.failure context cause).append (ih consistent strict passes) rfl
  | @declare context after task declaration next moments result _ ih =>
      have declared : Toured contributors context [] (context.declare task declaration) (.ok ()) :=
        .nothing (.nothing rfl rfl rfl rfl) rfl
      exact declared.append (ih consistent strict passes) rfl

namespace Context

variable {contributors : Contributors} {context : Context}

/-- A call made from outside, on a context in which nothing is being visited. -/
theorem toured_perform
    (consistent : context.Consistent)
    (strict : ∀ contributor ∈ contributors, (contributor.visit context.owner).PassesErrorsOn)
    (idle : context.visiting = [])
    (call : ContextCall) :
    Toured contributors context [(topLevel, call)] (context.perform contributors call).1
      (context.perform contributors call).2 := by
  rcases walk_perform contributors context call with ⟨moments, walk⟩
  have toured := walk.toured consistent strict trivial
  rwa [currentDeclaration, idle] at toured

theorem allSucceed_nil (context : Context) : AllSucceed contributors context [] := by
  intro earlier call later split
  exact absurd split.symm (List.append_ne_nil_of_right_ne_nil _ (List.cons_ne_nil call later))

theorem allSucceed_cons_iff (call : ContextCall) (calls : List ContextCall) :
    AllSucceed contributors context (call :: calls) ↔
      (context.perform contributors call).2 = .ok () ∧
        AllSucceed contributors (context.perform contributors call).1 calls := by
  constructor
  · intro succeed
    refine ⟨succeed [] call calls rfl, ?_⟩
    rintro earlier other later rfl
    exact succeed (call :: earlier) other later rfl
  · rintro ⟨answer, succeedLater⟩ earlier other later split
    cases earlier with
    | nil =>
        rcases List.cons.inj split with ⟨rfl, -⟩
        exact answer
    | cons first earlier =>
        rcases List.cons.inj split with ⟨rfl, rest⟩
        exact succeedLater earlier other later rest

/-- Calls that all succeed see what a tour of them sees. -/
theorem toured_performAll
    {calls : List ContextCall}
    (consistent : context.Consistent)
    (strict : ∀ contributor ∈ contributors, (contributor.visit context.owner).PassesErrorsOn)
    (idle : context.visiting = [])
    (succeed : AllSucceed contributors context calls) :
    (context.performAll contributors calls).visiting = [] ∧
      Toured contributors context (calls.map (topLevel, ·))
        (context.performAll contributors calls) (.ok ()) := by
  induction calls generalizing context with
  | nil => exact ⟨idle, .nothing (.nothing rfl rfl rfl rfl) rfl⟩
  | cons call calls ih =>
      rcases (allSucceed_cons_iff call calls).mp succeed with ⟨answer, succeedLater⟩
      rcases walk_perform contributors context call with ⟨moments, walk⟩
      have first := toured_perform consistent strict idle call
      rw [answer] at first
      rcases ih (walk.consistent consistent) (walk.owner ▸ strict) (walk.visiting.trans idle)
          succeedLater with ⟨idleAfter, rest⟩
      exact ⟨idleAfter, first.append rest walk.owner⟩

/-- What the first call that fails leaves behind.  Its error is about the first value that is no
dependency on a tour of the calls; what the tour sees before this value has been recorded, in the
same order, and nothing else has been recorded or visited. -/
theorem stops_at_first_foreign
    (contributors : Contributors)
    (owner : Option Task)
    (earlier : List ContextCall)
    (call : ContextCall)
    (error : UnsupportedDependency)
    (strict : ∀ contributor ∈ contributors, (contributor.visit owner).PassesErrorsOn)
    (succeed : AllSucceed contributors (.fresh owner) earlier)
    (failed :
      (((fresh owner).performAll contributors earlier).perform contributors call).2 =
        .error error) :
    let after := (((fresh owner).performAll contributors earlier).perform contributors call).1
    ∃ before value unseen,
      tour contributors owner [] ((earlier ++ [call]).map (topLevel, ·)) =
        before ++ .foreign value :: unseen ∧
      (∀ other, .foreign other ∉ before) ∧
      error = ⟨value.typeName, value.description, owner.map Task.path⟩ ∧
      after.nodes = (Sight.nodes before).eraseDupsBy Node.sameKey ∧
      after.failures = Sight.failures before ∧
      after.retained = Sight.visits before ∧
      after.visited = (Sight.visits before).map Prod.snd := by
  intro after
  have sameOwner : ((fresh owner).performAll contributors earlier).owner = owner :=
    performAll_owner _ earlier
  have begun : (fresh owner).visiting = [] := rfl
  have consistent := consistent_fresh owner
  rcases toured_performAll consistent strict begun succeed with ⟨idle, accepted⟩
  have last :=
    toured_perform (consistent.performAll contributors earlier) (sameOwner.symm ▸ strict) idle call
  have toured := accepted.append last sameOwner
  rw [failed] at toured
  cases toured with
  | stopped before value saw onward =>
      rcases onward [] with ⟨unseen, stop⟩
      rw [List.append_nil] at stop
      refine ⟨before, value, unseen, ?_, saw.supported, rfl, ?_, ?_, ?_, ?_⟩
      · rw [List.map_append]
        exact stop
      · rw [saw.nodes]
        exact Node.recordAll_nil _
      · exact saw.failures
      · exact saw.retained
      · exact saw.visited

end Context

/-! ## A value deep in a cycle -/

namespace DeepInCycle

def app : Task := ⟨⟨1⟩, ":app"⟩

def compile : Task := ⟨⟨2⟩, ":compile"⟩

def link : Task := ⟨⟨3⟩, ":link"⟩

def sweep : WorkAction := ⟨⟨1⟩, .finalize, "sweep"⟩

/-- A value that is no dependency. -/
def number : ForeignValue := ⟨"u8", "7", .null⟩

/-- Another one. -/
def flag : ForeignValue := ⟨"bool", "true", .null⟩

def noNetwork : Cause := .ofText "no network"

/-- A container that leads to a failing collection of tasks and to a transformation, which leads
back to the container and then to a buildable that builds the number. -/
def winding : Contributors :=
  [ .dependencySet
      [ .task compile, .contributor .tasks 1, .contributor .transformation 2, .other flag ],
    .failingTasks "remote tasks" noNetwork,
    .dependencySet
      [ .contributor .container 0, .work sweep, .contributor .buildable 3, .task app ],
    .staticBuildable (.other number) ]

/-- The calls that succeed before the container is added. -/
def earlier : List ContextCall := [.add (.task link), .maybeAdd (.other flag)]

/-- The addition of the container, if it can be a dependency. -/
def addContainer : ContextCall := .maybeAdd (.contributor .container 0)

theorem strict_winding :
    ∀ contributor ∈ winding, (contributor.visit (some app)).PassesErrorsOn := by
  simp only [winding, List.forall_mem_cons]
  exact ⟨Visit.passesErrorsOn_addAll _, trivial, Visit.passesErrorsOn_addAll _, trivial, by simp⟩

theorem allSucceed_earlier : Context.AllSucceed winding (.fresh (some app)) earlier :=
  (Context.allSucceed_cons_iff _ _).mpr
    ⟨rfl, (Context.allSucceed_cons_iff _ _).mpr ⟨rfl, Context.allSucceed_nil _⟩⟩

/-- The number is reported, and of what the tour sees only what comes before it is left. -/
theorem reports_number :
    (((Context.fresh (some app)).performAll winding earlier).perform winding addContainer).2 =
        .error ⟨"u8", "7", some ":app"⟩ ∧
      ∃ before value unseen,
        tour winding (some app) [] ((earlier ++ [addContainer]).map (topLevel, ·)) =
          before ++ .foreign value :: unseen ∧
        value.typeName = "u8" ∧
        (Sight.nodes before).eraseDupsBy Node.sameKey =
          [.task link, .task compile, .work sweep] ∧
        Sight.failures before = [⟨"remote tasks", noNetwork⟩] ∧
        Sight.visits before =
          [(.container, 0), (.tasks, 1), (.transformation, 2), (.buildable, 3)] := by
  have failed :
      (((Context.fresh (some app)).performAll winding earlier).perform winding addContainer).2 =
        .error ⟨"u8", "7", some ":app"⟩ := rfl
  rcases Context.stops_at_first_foreign winding (some app) earlier addContainer _ strict_winding
      allSucceed_earlier failed with
    ⟨before, value, unseen, stop, -, reported, nodes, failures, retained, -⟩
  refine ⟨failed, before, value, unseen, stop, ?_, ?_, ?_, ?_⟩
  · exact (UnsupportedDependency.mk.inj reported).1.symm
  · rw [← nodes]
    rfl
  · rw [← failures]
    rfl
  · rw [← retained]
    rfl

end DeepInCycle

end TaskDispatch
