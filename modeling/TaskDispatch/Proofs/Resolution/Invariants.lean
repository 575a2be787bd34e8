import TaskDispatch.Proofs.Resolution.Failures
import TaskDispatch.Proofs.Resolution.Visits

/-!
# What every call keeps

A call on a context is made by whoever owns the context, or by a contributor in the middle of its
visit; a contributor may pass an error on or go on after it.  `Context.Arises` holds of each call,
with the context it is made on, and of what is then left of the visit that makes it.

Every such call, whatever its answer, only adds to what is recorded, leaves the owner as it is, and
ends with the visits in progress with which it began.  The keys of the nodes stay distinct, and the
keys kept beside the nodes, which are asked instead of them whether a node is known, stay the keys
of the nodes.  The main statement is `Context.invariants_kept`.
-/

namespace TaskDispatch

/-! ## Nodes, and their keys beside them -/

namespace Context

/-- Records nodes in order. -/
def recordNodes (context : Context) (met : List Node) : Context := met.foldl record context

/-- Looking among the keys seen comes to the same as looking among the nodes. -/
theorem Consistent.recordNodes
    {context : Context}
    (consistent : context.Consistent)
    (met : List Node) :
    (context.recordNodes met).Consistent ∧
      (context.recordNodes met).nodes = Node.recordAll context.nodes met := by
  induction met generalizing context with
  | nil => exact ⟨consistent, rfl⟩
  | cons node met ih =>
      rcases ih (consistent.record node) with ⟨afterwards, nodes⟩
      refine ⟨afterwards, nodes.trans ?_⟩
      rw [consistent.record_nodes, ← Node.recordAll_append, List.singleton_append]

end Context

/-- Recording nodes keeps their keys distinct. -/
theorem Node.nodup_recordAll
    {held : List Node}
    (distinct : (held.map key).Nodup)
    (met : List Node) :
    ((recordAll held met).map key).Nodup := by
  induction met generalizing held with
  | nil => exact distinct
  | cons node met ih =>
      rw [recordAll_cons]
      apply ih
      split
      · exact distinct
      · next unknown =>
          rw [List.map_append, List.map_singleton, ← List.concat_eq_append]
          apply distinct.concat
          intro member
          rcases List.mem_map.mp member with ⟨other, member, same⟩
          exact unknown (List.any_eq_true.mpr ⟨other, member, by simp [sameKey, same]⟩)

/-! ## Calls, wherever they are made -/

/-- The call that a visit makes first, and how it goes on after each answer. -/
def Visit.first? : Visit → Option (ContextCall × (AddResult → Visit))
  | .add declaration next => some (.add declaration, next)
  | .maybeAdd declaration next => some (.maybeAdd declaration, next)
  | .fail cause next => some (.fail cause, fun _ => next)
  | _ => none

namespace Context

/-- Makes a call, adding declarations with `expand`. -/
def performWith
    (expand : Context → Declaration → Context × AddResult)
    (context : Context) :
    ContextCall → Context × AddResult
  | .add declaration => expand context declaration
  | .maybeAdd declaration => maybeAddWith expand context declaration
  | .fail cause => (context.visitFailure cause, .ok ())

/-- A call from outside may nest as many visits as there are contributors. -/
theorem perform_eq_performWith
    (contributors : Contributors)
    (context : Context)
    (call : ContextCall) :
    context.perform contributors call =
      context.performWith (expand contributors (contributors.length + 1)) call := by
  cases call <;> rfl

/-- A visit is followed by making its first call and going on after the answer. -/
theorem follow_of_first?
    {visit : Visit}
    {call : ContextCall}
    {next : AddResult → Visit}
    (first : visit.first? = some (call, next))
    (expand : Context → Declaration → Context × AddResult)
    (context : Context) :
    follow expand context visit =
      follow expand (context.performWith expand call).1
        (next (context.performWith expand call).2) := by
  cases visit with
  | add declaration onward => cases first; rfl
  | maybeAdd declaration onward => cases first; rfl
  | fail cause onward => cases first; rfl
  | finish => cases first
  | raise error => cases first
  | declare task declaration onward => cases first

/-- True of the calls that come to be made in the life of a context, and of what is left of visits
in progress, each with the context it is made on and the bound on nested visits at that point. -/
inductive Arises (contributors : Contributors) (owner : Option Task) :
    Nat → Context → Errand → Prop where
  /-- Whoever owns the context makes calls one after the other. -/
  | outside (calls : List ContextCall) (call : ContextCall) :
      Arises contributors owner (contributors.length + 1)
        ((fresh owner).performAll contributors calls) (.call call)
  /-- What can be a dependency is added, also if it need not be one. -/
  | supported {depth : Nat} {context : Context} {declaration : Declaration}
      (supported : declaration.isSupported = true)
      (arises : Arises contributors owner depth context (.call (.maybeAdd declaration))) :
      Arises contributors owner depth context (.call (.add declaration))
  /-- A contributor that is added for the first time is visited. -/
  | visit {depth : Nat} {context : Context} {shape : Shape} {place : ContributorId}
      {contributor : Contributor}
      (fresh : context.hasVisited place = false)
      (present : contributors[place]? = some contributor)
      (arises :
        Arises contributors owner (depth + 1) context (.call (.add (.contributor shape place)))) :
      Arises contributors owner depth (context.enter shape place (contributor.displayName shape))
        (.follow (contributor.performance context.owner shape))
  /-- A visit makes its first call. -/
  | call {depth : Nat} {context : Context} {visit : Visit} {call : ContextCall}
      {next : AddResult → Visit}
      (first : visit.first? = some (call, next))
      (arises : Arises contributors owner depth context (.follow visit)) :
      Arises contributors owner depth context (.call call)
  /-- A visit goes on after the answer, whatever it is. -/
  | onward {depth : Nat} {context : Context} {visit : Visit} {call : ContextCall}
      {next : AddResult → Visit}
      (first : visit.first? = some (call, next))
      (arises : Arises contributors owner depth context (.follow visit)) :
      Arises contributors owner depth (context.performWith (expand contributors depth) call).1
        (.follow (next (context.performWith (expand contributors depth) call).2))
  | declared {depth : Nat} {context : Context} {task : Identity} {declaration : Declaration}
      {next : Visit}
      (arises :
        Arises contributors owner depth context (.follow (.declare task declaration next))) :
      Arises contributors owner depth (context.declare task declaration) (.follow next)

/-! ## The invariants -/

/-- What is true of a context at any time. -/
structure Sound (owner : Option Task) (context : Context) : Prop where
  distinct : (context.nodes.map Node.key).Nodup
  /-- The keys seen are those of the nodes. -/
  seen : context.seen = context.nodes.map Node.key
  /-- A key is known exactly if it is that of a node. -/
  contains : ∀ key, context.contains key = true ↔ ∃ node ∈ context.nodes, node.key = key
  visitedOnce : context.visited.Nodup
  /-- The contributors retained are those visited. -/
  retained : context.visited = context.retained.map Prod.snd
  owner : context.owner = owner

/-- What a call leaves as it was, and how it adds to the rest. -/
structure Kept
    (contributors : Contributors)
    (context : Context)
    (call : ContextCall)
    (after : Context)
    (result : AddResult) :
    Prop where
  nodes : context.nodes <+: after.nodes
  seen : context.seen <+: after.seen
  failures : context.failures <+: after.failures
  visited : context.visited <+: after.visited
  retained : context.retained <+: after.retained
  owner : after.owner = context.owner
  visiting : after.visiting = context.visiting
  /-- Nodes and keys are those of recording, one after the other, the nodes that are met. -/
  recorded :
    ∃ incidents,
      Chronicle contributors context.owner context.visited (.call call) incidents after.visited
          result ∧
        after.nodes = (context.recordNodes (Incident.nodes incidents)).nodes ∧
        after.seen = (context.recordNodes (Incident.nodes incidents)).seen

section Invariants

variable
  {contributors : Contributors}
  {owner : Option Task}
  {context after : Context}
  {past : List Incident}
  {moments : List Moment}
  {result : AddResult}

theorem Sound.consistent (sound : context.Sound owner) : context.Consistent := sound.seen

theorem sound_fresh (owner : Option Task) : (fresh owner).Sound owner where
  distinct := List.nodup_nil
  seen := rfl
  contains := (consistent_fresh owner).contains_iff
  visitedOnce := List.nodup_nil
  retained := rfl
  owner := rfl

theorem Sound.enter
    (sound : context.Sound owner)
    {place : ContributorId}
    (fresh : place ∉ context.visited)
    (shape : Shape)
    (name : String) :
    (context.enter shape place name).Sound owner where
  distinct := sound.distinct
  seen := sound.seen
  contains := sound.contains
  visitedOnce := by
    rw [enter_visited, ← List.concat_eq_append]
    exact sound.visitedOnce.concat fresh
  retained := by simp [sound.retained]
  owner := sound.owner

theorem Sound.walk
    (sound : context.Sound owner)
    {errand : Errand}
    (walk : Walk contributors context errand moments after result)
    {incidents : List Incident}
    (told : Told contributors past context errand incidents after result) :
    after.Sound owner where
  distinct := told.nodes ▸ Node.nodup_recordAll sound.distinct _
  seen := walk.consistent sound.consistent
  contains := (walk.consistent sound.consistent).contains_iff
  visitedOnce := (walk.orderly sound.retained.symm).nodup sound.visitedOnce
  retained := by rw [walk.visited, walk.retained, sound.retained, List.map_append]
  owner := walk.owner.trans sound.owner

theorem Sound.kept_of_walk
    (sound : context.Sound owner)
    {call : ContextCall}
    (walk : Walk contributors context (.call call) moments after result)
    {incidents : List Incident}
    (told : Told contributors past context (.call call) incidents after result) :
    context.Kept contributors call after result := by
  rcases sound.consistent.recordNodes (Incident.nodes incidents) with ⟨keys, nodes⟩
  have met : after.nodes = (context.recordNodes (Incident.nodes incidents)).nodes :=
    told.nodes.trans nodes.symm
  constructor
  case nodes => exact walk.nodes_prefix
  case seen => exact walk.seen_prefix
  case failures => exact told.failures ▸ List.prefix_append _ _
  case visited => exact walk.visited ▸ List.prefix_append _ _
  case retained => exact walk.retained ▸ List.prefix_append _ _
  case owner => exact walk.owner
  case visiting => exact walk.visiting
  case recorded =>
    refine ⟨incidents, told.chronicle, met, ?_⟩
    calc
      after.seen = after.nodes.map Node.key := walk.consistent sound.consistent
      _ = (context.recordNodes (Incident.nodes incidents)).nodes.map Node.key := by rw [met]
      _ = (context.recordNodes (Incident.nodes incidents)).seen := keys.symm

/-- With the bound on nested visits that is left, a call is computed as its walk. -/
theorem hasWalk_performWith
    {depth : Nat}
    (enough : context.unvisited contributors < depth)
    (call : ContextCall) :
    HasWalk contributors context (.call call)
      (context.performWith (expand contributors depth) call) := by
  cases call with
  | add declaration => exact hasWalk_expand depth context declaration enough
  | maybeAdd declaration =>
      exact hasWalk_maybeAddWith (hasWalk_expand depth context declaration enough)
  | fail cause => exact ⟨[], .failure⟩

end Invariants

/-- What is true of a context whenever a call is made on it, or is left of a visit: it is sound,
recalls what has happened, and there are visits enough left for the contributors not visited. -/
structure Ready
    (contributors : Contributors)
    (owner : Option Task)
    (depth : Nat)
    (context : Context) :
    Prop where
  sound : context.Sound owner
  recalls : ∃ past, context.Recalls past
  enough : context.unvisited contributors < depth

namespace Ready

variable
  {contributors : Contributors}
  {owner : Option Task}
  {depth : Nat}
  {context : Context}

theorem fresh (contributors : Contributors) (owner : Option Task) :
    (fresh owner).Ready contributors owner (contributors.length + 1) where
  sound := sound_fresh owner
  recalls := ⟨[], .fresh owner⟩
  enough := Nat.lt_succ_of_le (unvisited_le_length contributors _)

/-- A call keeps the invariants of the context, and what is said of a call is true of it. -/
theorem performWith (ready : context.Ready contributors owner depth) (call : ContextCall) :
    let step := context.performWith (expand contributors depth) call
    step.1.Ready contributors owner depth ∧ context.Kept contributors call step.1 step.2 := by
  intro step
  rcases hasWalk_performWith ready.enough call with ⟨moments, walk⟩
  rcases ready.recalls with ⟨past, recalls⟩
  rcases walk.exists_told recalls ready.sound.consistent with ⟨incidents, told⟩
  refine ⟨⟨?_, ?_, ?_⟩, ready.sound.kept_of_walk walk told⟩
  · exact ready.sound.walk walk told
  · exact ⟨_, recalls.walk walk told.chronicle⟩
  · exact Nat.lt_of_le_of_lt (unvisited_le_of_walk walk) ready.enough

theorem performAll
    (ready : context.Ready contributors owner (contributors.length + 1))
    (calls : List ContextCall) :
    (context.performAll contributors calls).Ready contributors owner (contributors.length + 1) := by
  induction calls generalizing context with
  | nil => exact ready
  | cons call calls ih =>
      rw [performAll_cons, perform_eq_performWith]
      exact ih (ready.performWith call).1

/-- To enter a visit takes one of the nested visits left. -/
theorem enter
    (ready : context.Ready contributors owner (depth + 1))
    {shape : Shape}
    {place : ContributorId}
    {contributor : Contributor}
    (fresh : context.hasVisited place = false)
    (present : contributors[place]? = some contributor) :
    (context.enter shape place (contributor.displayName shape)).Ready contributors owner depth := by
  have unseen : place ∉ context.visited := by
    rw [← hasVisited_iff, fresh]
    exact Bool.false_ne_true
  have fewer :
      (context.enter shape place (contributor.displayName shape)).unvisited contributors <
        context.unvisited contributors :=
    unvisited_enter fresh (List.getElem?_eq_some_iff.mp present).1
  rcases ready.recalls with ⟨past, recalls⟩
  refine ⟨ready.sound.enter unseen shape _, ⟨_, recalls.enter unseen shape _⟩, ?_⟩
  exact Nat.lt_of_lt_of_le fewer (Nat.le_of_lt_succ ready.enough)

theorem declare
    (ready : context.Ready contributors owner depth)
    (task : Identity)
    (declaration : Declaration) :
    (context.declare task declaration).Ready contributors owner depth := by
  rcases ready.recalls with ⟨past, recalls⟩
  refine ⟨?_, ⟨past, recalls.visiting, recalls.begun, recalls.ended⟩, ready.enough⟩
  exact
    { distinct := ready.sound.distinct
      seen := ready.sound.seen
      contains := ready.sound.contains
      visitedOnce := ready.sound.visitedOnce
      retained := ready.sound.retained
      owner := ready.sound.owner }

end Ready

/-- The invariants are there whenever a call is made, or is left of a visit. -/
theorem Arises.ready
    {contributors : Contributors}
    {owner : Option Task}
    {depth : Nat}
    {context : Context}
    {errand : Errand}
    (arises : Arises contributors owner depth context errand) :
    context.Ready contributors owner depth := by
  induction arises with
  | outside calls call => exact (Ready.fresh contributors owner).performAll calls
  | supported _ _ ih => exact ih
  | visit fresh present _ ih => exact ih.enter fresh present
  | call _ _ ih => exact ih
  | @onward depth context visit call next first _ ih => exact (ih.performWith call).1
  | declared _ ih => exact ih.declare _ _

/-- Every call that is made on a context, from outside or in the middle of a visit, finds the
invariants and leaves them, and only adds to what the context holds, also if its answer is an
error.  A visit that makes the call goes on with what the call leaves. -/
theorem invariants_kept
    {contributors : Contributors}
    {owner : Option Task}
    {depth : Nat}
    {context : Context}
    {call : ContextCall}
    (arises : Arises contributors owner depth context (.call call)) :
    let step := context.performWith (expand contributors depth) call
    context.Sound owner ∧
      step.1.Sound owner ∧
      context.Kept contributors call step.1 step.2 ∧
      ∀ visit next, visit.first? = some (call, next) →
        follow (expand contributors depth) context visit =
          follow (expand contributors depth) step.1 (next step.2) := by
  intro step
  rcases arises.ready.performWith call with ⟨ready, kept⟩
  refine ⟨arises.ready.sound, ready.sound, kept, ?_⟩
  intro visit next first
  exact follow_of_first? first _ context

end Context

/-! ## An error in the middle of a visit -/

namespace Rescue

def app : Task := ⟨⟨1⟩, ":app"⟩

def flag : ForeignValue := ⟨"bool", "true", .null⟩

/-- A container that adds a task twice and then a value that is no dependency, and another that adds
the first one and goes on after its error. -/
def rescue : Contributors :=
  [ .dependencySet [.task app, .task app, .other flag],
    { Contributor.idle with
      visit := fun _ =>
        .add (.task app) fun _ =>
          .add (.contributor .container 0) (Visit.orFail (.add (.task app) fun _ => .finish)) } ]

/-- The context in the middle of the second visit. -/
def halfway : Context :=
  ((Context.fresh none).enter .container 1 "dependency container").record (.task app)

theorem arises_halfway :
    Context.Arises rescue none 2 halfway (.call (.add (.contributor .container 0))) := by
  have outside :
      Context.Arises rescue none 3 (.fresh none) (.call (.add (.contributor .container 1))) :=
    .outside [] _
  have entered := Context.Arises.visit (by decide) rfl outside
  have onward := Context.Arises.onward rfl entered
  exact .call rfl onward

/-- The call fails, and the task that it met again is still there once. -/
theorem kept_on_failure :
    Context.Arises rescue none 2 halfway (.call (.add (.contributor .container 0))) ∧
      let step := halfway.performWith (Context.expand rescue 2) (.add (.contributor .container 0))
      step.2 = .error (flag.unsupported none) ∧
        step.1.nodes = [.task app] ∧
        step.1.visiting = ["dependency container"] ∧
        step.1.Sound none ∧
        halfway.Kept rescue (.add (.contributor .container 0)) step.1 step.2 := by
  rcases Context.invariants_kept arises_halfway with ⟨-, sound, kept, -⟩
  exact ⟨arises_halfway, rfl, rfl, kept.visiting, sound, kept⟩

end Rescue

end TaskDispatch
