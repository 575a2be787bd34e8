import Mathlib.Data.Finset.Card
import Mathlib.Data.Finset.Dedup
import Mathlib.Data.Finset.Range
import TaskDispatch.Proofs.Resolution.Calls

/-!
# Walks

`Walk` says in rules, without a bound on depth, what a context does with a call or a visit: which
contributors are presented and visited on the way, which context is left, and with which result.
Since it is defined inductively, a walk that has a derivation comes to an end.

The main statement, `walk_perform`, is that every call on every context has a walk, namely the one
that the context computes; by `Walk.deterministic` it has no other.  The bound on the depth of
`expand` is therefore never reached.  The proof counts the contributors not yet visited: each nested
visit is entered with one of them fewer.
-/

namespace TaskDispatch

/-- What happens to contributors while a context is used. -/
inductive Moment where
  /-- A contributor is added under a shape, while these contributors are retained. -/
  | presented (shape : Shape) (place : ContributorId) (retained : List (Shape × ContributorId))
  /-- The visit of a contributor begins. -/
  | entered (shape : Shape) (place : ContributorId)
  /-- The visit of a contributor ends. -/
  | left (place : ContributorId)
deriving DecidableEq

/-- What a context is occupied with: a call, or the calls that are left of a visit. -/
inductive Errand where
  | call (call : ContextCall)
  | follow (visit : Visit)

namespace Moment

/-- The visit that begins at a moment. -/
def entry? : Moment → Option (Shape × ContributorId)
  | .entered shape place => some (shape, place)
  | _ => none

/-- The visits that begin, in order. -/
def entries (moments : List Moment) : List (Shape × ContributorId) :=
  moments.filterMap entry?

@[simp]
theorem entries_nil : entries [] = [] := rfl

@[simp]
theorem entries_append (earlier later : List Moment) :
    entries (earlier ++ later) = entries earlier ++ entries later :=
  List.filterMap_append

@[simp]
theorem entries_presented
    (shape : Shape)
    (place : ContributorId)
    (retained : List (Shape × ContributorId))
    (moments : List Moment) :
    entries (.presented shape place retained :: moments) = entries moments := rfl

@[simp]
theorem entries_entered (shape : Shape) (place : ContributorId) (moments : List Moment) :
    entries (.entered shape place :: moments) = (shape, place) :: entries moments := rfl

@[simp]
theorem entries_left (place : ContributorId) (moments : List Moment) :
    entries (.left place :: moments) = entries moments := rfl

end Moment

/-- What becomes of a context: what happens to contributors on the way, the context that is left,
and the result. -/
inductive Walk (contributors : Contributors) :
    Context → Errand → List Moment → Context → AddResult → Prop where
  /-- A task or a work action is recorded. -/
  | node {context : Context} {declaration : Declaration} {node : Node}
      (isNode : declaration.node? = some node) :
      Walk contributors context (.call (.add declaration)) [] (context.record node) (.ok ())
  /-- A value that is no dependency is an error. -/
  | foreign {context : Context} {value : ForeignValue} :
      Walk contributors context (.call (.add (.other value))) [] context
        (.error (value.unsupported context.ownerPath))
  /-- A contributor visited before, or one that does not exist, is passed over. -/
  | known {context : Context} {shape : Shape} {place : ContributorId}
      (known : context.hasVisited place = true ∨ contributors.length ≤ place) :
      Walk contributors context (.call (.add (.contributor shape place)))
        [.presented shape place context.retained] context (.ok ())
  /-- Any other contributor is visited. -/
  | first {context after : Context} {shape : Shape} {place : ContributorId}
      {contributor : Contributor} {moments : List Moment} {result : AddResult}
      (fresh : context.hasVisited place = false)
      (present : contributors[place]? = some contributor)
      (visit :
        Walk contributors (context.enter shape place (contributor.displayName shape))
          (.follow (contributor.performance context.owner shape)) moments after result) :
      Walk contributors context (.call (.add (.contributor shape place)))
        (.presented shape place context.retained :: .entered shape place ::
          (moments ++ [.left place]))
        after.leave result
  /-- A value that is no dependency is ignored if it need not be one. -/
  | ignored {context : Context} {value : ForeignValue} :
      Walk contributors context (.call (.maybeAdd (.other value))) []
        { context with events := context.events ++ [Context.ignored value] } (.ok ())
  /-- Anything else that need not be a dependency is added. -/
  | supported {context after : Context} {declaration : Declaration} {moments : List Moment}
      {result : AddResult}
      (supported : declaration.isSupported = true)
      (walk : Walk contributors context (.call (.add declaration)) moments after result) :
      Walk contributors context (.call (.maybeAdd declaration)) moments after result
  /-- A failure is recorded. -/
  | failure {context : Context} {cause : Cause} :
      Walk contributors context (.call (.fail cause)) [] (context.visitFailure cause) (.ok ())
  | finish {context : Context} :
      Walk contributors context (.follow .finish) [] context (.ok ())
  | raise {context : Context} {error : UnsupportedDependency} :
      Walk contributors context (.follow (.raise error)) [] context (.error error)
  | add {context middle after : Context} {declaration : Declaration} {next : AddResult → Visit}
      {moments later : List Moment} {outcome result : AddResult}
      (head : Walk contributors context (.call (.add declaration)) moments middle outcome)
      (tail : Walk contributors middle (.follow (next outcome)) later after result) :
      Walk contributors context (.follow (.add declaration next)) (moments ++ later) after result
  | maybeAdd {context middle after : Context} {declaration : Declaration}
      {next : AddResult → Visit} {moments later : List Moment} {outcome result : AddResult}
      (head : Walk contributors context (.call (.maybeAdd declaration)) moments middle outcome)
      (tail : Walk contributors middle (.follow (next outcome)) later after result) :
      Walk contributors context (.follow (.maybeAdd declaration next)) (moments ++ later) after
        result
  | fail {context after : Context} {cause : Cause} {next : Visit} {moments : List Moment}
      {result : AddResult}
      (tail : Walk contributors (context.visitFailure cause) (.follow next) moments after result) :
      Walk contributors context (.follow (.fail cause next)) moments after result
  | declare {context after : Context} {task : Identity} {declaration : Declaration}
      {next : Visit} {moments : List Moment} {result : AddResult}
      (tail :
        Walk contributors (context.declare task declaration) (.follow next) moments after result) :
      Walk contributors context (.follow (.declare task declaration next)) moments after result

/-- What becomes of a context on which calls are made one after the other. -/
inductive Walks (contributors : Contributors) :
    Context → List ContextCall → List Moment → Context → Prop where
  | done {context : Context} : Walks contributors context [] [] context
  | call {context middle after : Context} {call : ContextCall} {calls : List ContextCall}
      {moments later : List Moment} {result : AddResult}
      (head : Walk contributors context (.call call) moments middle result)
      (tail : Walks contributors middle calls later after) :
      Walks contributors context (call :: calls) (moments ++ later) after

namespace Context

/-! ## What elementary changes leave alone -/

section Elementary

variable (context : Context)

@[simp]
theorem record_owner (node : Node) : (context.record node).owner = context.owner := by
  unfold record
  split <;> rfl

@[simp]
theorem record_visited (node : Node) : (context.record node).visited = context.visited := by
  unfold record
  split <;> rfl

/-- Recording a node keeps the nodes before it. -/
theorem nodes_prefix_record (node : Node) : context.nodes <+: (context.record node).nodes := by
  unfold record
  split
  · exact List.prefix_rfl
  · exact List.prefix_append _ _

@[simp]
theorem record_retained (node : Node) : (context.record node).retained = context.retained := by
  unfold record
  split <;> rfl

@[simp]
theorem record_visiting (node : Node) : (context.record node).visiting = context.visiting := by
  unfold record
  split <;> rfl

@[simp]
theorem visitFailure_owner (cause : Cause) :
    (context.visitFailure cause).owner = context.owner := rfl

@[simp]
theorem visitFailure_nodes (cause : Cause) :
    (context.visitFailure cause).nodes = context.nodes := rfl

@[simp]
theorem visitFailure_visited (cause : Cause) :
    (context.visitFailure cause).visited = context.visited := rfl

@[simp]
theorem visitFailure_retained (cause : Cause) :
    (context.visitFailure cause).retained = context.retained := rfl

@[simp]
theorem visitFailure_visiting (cause : Cause) :
    (context.visitFailure cause).visiting = context.visiting := rfl

@[simp]
theorem enter_owner (shape : Shape) (place : ContributorId) (name : String) :
    (context.enter shape place name).owner = context.owner := rfl

@[simp]
theorem enter_nodes (shape : Shape) (place : ContributorId) (name : String) :
    (context.enter shape place name).nodes = context.nodes := rfl

@[simp]
theorem enter_visited (shape : Shape) (place : ContributorId) (name : String) :
    (context.enter shape place name).visited = context.visited ++ [place] := rfl

@[simp]
theorem enter_retained (shape : Shape) (place : ContributorId) (name : String) :
    (context.enter shape place name).retained = context.retained ++ [(shape, place)] := rfl

@[simp]
theorem enter_visiting (shape : Shape) (place : ContributorId) (name : String) :
    (context.enter shape place name).visiting = name :: context.visiting := rfl

@[simp]
theorem leave_owner : context.leave.owner = context.owner := rfl

@[simp]
theorem leave_nodes : context.leave.nodes = context.nodes := rfl

@[simp]
theorem leave_visited : context.leave.visited = context.visited := rfl

@[simp]
theorem leave_retained : context.leave.retained = context.retained := rfl

@[simp]
theorem leave_visiting : context.leave.visiting = context.visiting.tail := rfl

@[simp]
theorem declare_owner (task : Identity) (declaration : Declaration) :
    (context.declare task declaration).owner = context.owner := rfl

@[simp]
theorem declare_nodes (task : Identity) (declaration : Declaration) :
    (context.declare task declaration).nodes = context.nodes := rfl

@[simp]
theorem declare_visited (task : Identity) (declaration : Declaration) :
    (context.declare task declaration).visited = context.visited := rfl

@[simp]
theorem declare_retained (task : Identity) (declaration : Declaration) :
    (context.declare task declaration).retained = context.retained := rfl

@[simp]
theorem declare_visiting (task : Identity) (declaration : Declaration) :
    (context.declare task declaration).visiting = context.visiting := rfl

/-- Recording a node keeps the keys seen before it. -/
theorem seen_prefix_record (node : Node) : context.seen <+: (context.record node).seen := by
  unfold record
  split
  · exact List.prefix_rfl
  · exact List.prefix_append _ _

theorem contains_iff_mem_seen (key : NodeKey) :
    context.contains key = true ↔ key ∈ context.seen :=
  List.contains_iff_mem

/-- A node that has been recorded is known. -/
theorem contains_record_self (node : Node) : (context.record node).contains node.key = true := by
  unfold record
  split
  case isTrue known => exact known
  case isFalse unknown => simp [contains]

theorem hasVisited_iff (place : ContributorId) :
    context.hasVisited place = true ↔ place ∈ context.visited :=
  List.contains_iff_mem

end Elementary

/-! ## The keys that have been seen -/

/-- True of a context that has seen the keys of its nodes, and no others. -/
def Consistent (context : Context) : Prop := context.seen = context.nodes.map Node.key

theorem consistent_fresh (owner : Option Task) : (fresh owner).Consistent := rfl

namespace Consistent

variable {context : Context}

/-- To look among the keys seen is to look among the nodes. -/
theorem contains_iff (consistent : context.Consistent) (key : NodeKey) :
    context.contains key = true ↔ ∃ node ∈ context.nodes, node.key = key := by
  have keys : context.seen = context.nodes.map Node.key := consistent
  rw [contains_iff_mem_seen, keys, List.mem_map]

theorem record (consistent : context.Consistent) (node : Node) :
    (context.record node).Consistent := by
  unfold Context.record
  split
  case isTrue known => exact consistent
  case isFalse unknown =>
    have keys : context.seen = context.nodes.map Node.key := consistent
    show context.seen ++ [node.key] = (context.nodes ++ [node]).map Node.key
    rw [keys, List.map_append, List.map_singleton]

end Consistent

end Context

namespace Walk

variable {contributors : Contributors} {context after : Context} {errand : Errand}
  {moments : List Moment} {result : AddResult}

theorem owner (walk : Walk contributors context errand moments after result) :
    after.owner = context.owner := by
  induction walk with
  | node => simp
  | foreign => rfl
  | known => rfl
  | first _ _ _ visitIH => simpa using visitIH
  | ignored => rfl
  | supported _ _ walkIH => exact walkIH
  | failure => rfl
  | finish => rfl
  | raise => rfl
  | add _ _ headIH tailIH => exact tailIH.trans headIH
  | maybeAdd _ _ headIH tailIH => exact tailIH.trans headIH
  | fail _ tailIH => exact tailIH
  | declare _ tailIH => exact tailIH

theorem retained (walk : Walk contributors context errand moments after result) :
    after.retained = context.retained ++ Moment.entries moments := by
  induction walk with
  | node => simp
  | foreign => simp
  | known => simp
  | first _ _ _ visitIH => simp [visitIH]
  | ignored => simp
  | supported _ _ walkIH => exact walkIH
  | failure => simp
  | finish => simp
  | raise => simp
  | add _ _ headIH tailIH => simp [headIH, tailIH]
  | maybeAdd _ _ headIH tailIH => simp [headIH, tailIH]
  | fail _ tailIH => simpa using tailIH
  | declare _ tailIH => simpa using tailIH

theorem visited (walk : Walk contributors context errand moments after result) :
    after.visited = context.visited ++ (Moment.entries moments).map Prod.snd := by
  induction walk with
  | node => simp
  | foreign => simp
  | known => simp
  | first _ _ _ visitIH => simp [visitIH]
  | ignored => simp
  | supported _ _ walkIH => exact walkIH
  | failure => simp
  | finish => simp
  | raise => simp
  | add _ _ headIH tailIH => simp [headIH, tailIH]
  | maybeAdd _ _ headIH tailIH => simp [headIH, tailIH]
  | fail _ tailIH => simpa using tailIH
  | declare _ tailIH => simpa using tailIH

/-- Every visit that begins on a walk also ends on it. -/
theorem visiting (walk : Walk contributors context errand moments after result) :
    after.visiting = context.visiting := by
  induction walk with
  | node => simp
  | foreign => rfl
  | known => rfl
  | first _ _ _ visitIH => simp [visitIH]
  | ignored => rfl
  | supported _ _ walkIH => exact walkIH
  | failure => rfl
  | finish => rfl
  | raise => rfl
  | add _ _ headIH tailIH => exact tailIH.trans headIH
  | maybeAdd _ _ headIH tailIH => exact tailIH.trans headIH
  | fail _ tailIH => exact tailIH
  | declare _ tailIH => exact tailIH

theorem nodes_prefix (walk : Walk contributors context errand moments after result) :
    context.nodes <+: after.nodes := by
  induction walk with
  | node => exact Context.nodes_prefix_record _ _
  | foreign => exact List.prefix_rfl
  | known => exact List.prefix_rfl
  | first _ _ _ visitIH => exact visitIH
  | ignored => exact List.prefix_rfl
  | supported _ _ walkIH => exact walkIH
  | failure => exact List.prefix_rfl
  | finish => exact List.prefix_rfl
  | raise => exact List.prefix_rfl
  | add _ _ headIH tailIH => exact headIH.trans tailIH
  | maybeAdd _ _ headIH tailIH => exact headIH.trans tailIH
  | fail _ tailIH => exact tailIH
  | declare _ tailIH => exact tailIH

theorem seen_prefix (walk : Walk contributors context errand moments after result) :
    context.seen <+: after.seen := by
  induction walk with
  | node => exact Context.seen_prefix_record _ _
  | foreign => exact List.prefix_rfl
  | known => exact List.prefix_rfl
  | first _ _ _ visitIH => exact visitIH
  | ignored => exact List.prefix_rfl
  | supported _ _ walkIH => exact walkIH
  | failure => exact List.prefix_rfl
  | finish => exact List.prefix_rfl
  | raise => exact List.prefix_rfl
  | add _ _ headIH tailIH => exact headIH.trans tailIH
  | maybeAdd _ _ headIH tailIH => exact headIH.trans tailIH
  | fail _ tailIH => exact tailIH
  | declare _ tailIH => exact tailIH

/-- The keys seen stay those of the nodes. -/
theorem consistent
    (walk : Walk contributors context errand moments after result)
    (consistent : context.Consistent) :
    after.Consistent := by
  induction walk with
  | node => exact consistent.record _
  | foreign => exact consistent
  | known => exact consistent
  | first _ _ _ visitIH => exact visitIH consistent
  | ignored => exact consistent
  | supported _ _ walkIH => exact walkIH consistent
  | failure => exact consistent
  | finish => exact consistent
  | raise => exact consistent
  | add _ _ headIH tailIH => exact tailIH (headIH consistent)
  | maybeAdd _ _ headIH tailIH => exact tailIH (headIH consistent)
  | fail _ tailIH => exact tailIH consistent
  | declare _ tailIH => exact tailIH consistent

/-- A context and an errand leave no choice. -/
theorem deterministic
    {after' : Context} {moments' : List Moment} {result' : AddResult}
    (walk : Walk contributors context errand moments after result)
    (other : Walk contributors context errand moments' after' result') :
    moments = moments' ∧ after = after' ∧ result = result' := by
  induction walk generalizing moments' after' result' with
  | node isNode =>
      cases other with
      | node isNode' =>
          cases isNode.symm.trans isNode'
          exact ⟨rfl, rfl, rfl⟩
      | _ => cases isNode
  | foreign =>
      cases other with
      | node isNode => cases isNode
      | foreign => exact ⟨rfl, rfl, rfl⟩
  | known known =>
      cases other with
      | node isNode => cases isNode
      | known => exact ⟨rfl, rfl, rfl⟩
      | first fresh present =>
          rcases known with known | absent
          · exact (Bool.false_ne_true (fresh.symm.trans known)).elim
          · rw [List.getElem?_eq_none absent] at present
            cases present
  | first fresh present _ visitIH =>
      cases other with
      | node isNode => cases isNode
      | known known =>
          rcases known with known | absent
          · exact (Bool.false_ne_true (fresh.symm.trans known)).elim
          · rw [List.getElem?_eq_none absent] at present
            cases present
      | first _ present' visit' =>
          cases present.symm.trans present'
          rcases visitIH visit' with ⟨rfl, rfl, rfl⟩
          exact ⟨rfl, rfl, rfl⟩
  | ignored =>
      cases other with
      | ignored => exact ⟨rfl, rfl, rfl⟩
      | supported supported => cases supported
  | supported supported _ walkIH =>
      cases other with
      | ignored => cases supported
      | supported _ walk' => exact walkIH walk'
  | failure =>
      cases other with
      | failure => exact ⟨rfl, rfl, rfl⟩
  | finish =>
      cases other with
      | finish => exact ⟨rfl, rfl, rfl⟩
  | raise =>
      cases other with
      | raise => exact ⟨rfl, rfl, rfl⟩
  | add _ _ headIH tailIH =>
      cases other with
      | add head' tail' =>
          rcases headIH head' with ⟨rfl, rfl, rfl⟩
          rcases tailIH tail' with ⟨rfl, rfl, rfl⟩
          exact ⟨rfl, rfl, rfl⟩
  | maybeAdd _ _ headIH tailIH =>
      cases other with
      | maybeAdd head' tail' =>
          rcases headIH head' with ⟨rfl, rfl, rfl⟩
          rcases tailIH tail' with ⟨rfl, rfl, rfl⟩
          exact ⟨rfl, rfl, rfl⟩
  | fail _ tailIH =>
      cases other with
      | fail tail' => exact tailIH tail'
  | declare _ tailIH =>
      cases other with
      | declare tail' => exact tailIH tail'

end Walk

/-! ## The walk that a context computes -/

namespace Context

variable {contributors : Contributors}

theorem follow_addAll_tasks
    {expand : Context → Declaration → Context × AddResult}
    (expandTask :
      ∀ context target, expand context (.task target) = (context.record (.task target), .ok ()))
    (context : Context)
    (members : List Task) :
    follow expand context (.addAll (members.map .task)) =
      (context.recordTasks members, .ok ()) := by
  induction members generalizing context with
  | nil => rfl
  | cons member members ih =>
      simp only [List.map_cons, Visit.addAll, follow, expandTask]
      exact ih (context.record (.task member))

/-- What a contributor does is to make the calls of its performance. -/
theorem contribute_eq_follow
    {expand : Context → Declaration → Context × AddResult}
    (expandTask :
      ∀ context target, expand context (.task target) = (context.record (.task target), .ok ()))
    (context : Context)
    (contributor : Contributor)
    (shape : Shape) :
    contribute expand context contributor shape =
      follow expand context (contributor.performance context.owner shape) := by
  cases shape with
  | tasks =>
      unfold contribute Contributor.performance
      cases contributor.tasks context.owner with
      | ok members => exact (follow_addAll_tasks expandTask context members).symm
      | error cause => rfl
  | buildable =>
      unfold contribute Contributor.performance
      cases contributor.build with
      | ok declaration =>
          simp only [Visit.addAll, follow]
          rcases expand context declaration with ⟨after, result⟩
          cases result <;> rfl
      | error cause => rfl
  | container => rfl
  | transformation => rfl

/-- How many contributors have not been visited. -/
def unvisited (contributors : Contributors) (context : Context) : Nat :=
  (Finset.range contributors.length \ context.visited.toFinset).card

theorem unvisited_le_length (contributors : Contributors) (context : Context) :
    context.unvisited contributors ≤ contributors.length := by
  have bounded := Finset.card_le_card
    (Finset.sdiff_subset (s := Finset.range contributors.length)
      (t := context.visited.toFinset))
  rwa [Finset.card_range] at bounded

theorem unvisited_enter
    {context : Context}
    {shape : Shape}
    {place : ContributorId}
    {name : String}
    (fresh : context.hasVisited place = false)
    (present : place < contributors.length) :
    (context.enter shape place name).unvisited contributors < context.unvisited contributors := by
  have unseen : place ∉ context.visited := by
    intro seen
    rw [(context.hasVisited_iff place).mpr seen] at fresh
    cases fresh
  apply Finset.card_lt_card
  constructor
  · apply Finset.sdiff_subset_sdiff (Finset.Subset.refl _)
    intro other seen
    simp only [enter_visited, List.mem_toFinset, List.mem_append] at seen ⊢
    exact Or.inl seen
  · intro included
    have member : place ∈ Finset.range contributors.length \ context.visited.toFinset := by
      simpa using ⟨present, unseen⟩
    simpa using included member

theorem unvisited_le_of_walk
    {context after : Context}
    {errand : Errand}
    {moments : List Moment}
    {result : AddResult}
    (walk : Walk contributors context errand moments after result) :
    after.unvisited contributors ≤ context.unvisited contributors := by
  apply Finset.card_le_card
  apply Finset.sdiff_subset_sdiff (Finset.Subset.refl _)
  intro place seen
  rw [walk.visited]
  simpa using Or.inl (List.mem_toFinset.mp seen)

/-- A context computes a walk for an errand with this result. -/
def HasWalk
    (contributors : Contributors)
    (context : Context)
    (errand : Errand)
    (computed : Context × AddResult) :
    Prop :=
  ∃ moments, Walk contributors context errand moments computed.1 computed.2

/-- Not insisting on a dependency keeps the walk of the addition. -/
theorem hasWalk_maybeAddWith
    {expand : Context → Declaration → Context × AddResult}
    {context : Context}
    {declaration : Declaration}
    (added : HasWalk contributors context (.call (.add declaration)) (expand context declaration)) :
    HasWalk contributors context (.call (.maybeAdd declaration))
      (maybeAddWith expand context declaration) := by
  rcases added with ⟨moments, walk⟩
  cases declaration with
  | other value => exact ⟨[], .ignored⟩
  | task target => exact ⟨moments, .supported rfl walk⟩
  | work action => exact ⟨moments, .supported rfl walk⟩
  | contributor shape place => exact ⟨moments, .supported rfl walk⟩

/-- If additions to contexts with few contributors left have walks, so have visits. -/
theorem hasWalk_follow
    {expand : Context → Declaration → Context × AddResult}
    {bound : Nat}
    (added :
      ∀ context declaration, context.unvisited contributors ≤ bound →
        HasWalk contributors context (.call (.add declaration)) (expand context declaration))
    (visit : Visit)
    (context : Context)
    (few : context.unvisited contributors ≤ bound) :
    HasWalk contributors context (.follow visit) (follow expand context visit) := by
  induction visit generalizing context with
  | finish => exact ⟨[], .finish⟩
  | raise error => exact ⟨[], .raise⟩
  | add declaration next ih =>
      rcases added context declaration few with ⟨moments, head⟩
      have fewer := (unvisited_le_of_walk head).trans few
      rcases ih _ _ fewer with ⟨later, tail⟩
      exact ⟨moments ++ later, .add head tail⟩
  | maybeAdd declaration next ih =>
      rcases hasWalk_maybeAddWith (added context declaration few) with ⟨moments, head⟩
      have fewer := (unvisited_le_of_walk head).trans few
      rcases ih _ _ fewer with ⟨later, tail⟩
      exact ⟨moments ++ later, .maybeAdd head tail⟩
  | fail cause next ih =>
      rcases ih (context.visitFailure cause) few with ⟨moments, tail⟩
      exact ⟨moments, .fail tail⟩
  | declare task declaration next ih =>
      rcases ih (context.declare task declaration) few with ⟨moments, tail⟩
      exact ⟨moments, .declare tail⟩

theorem expand_task
    (contributors : Contributors)
    (depth : Nat)
    (context : Context)
    (target : Task) :
    expand contributors depth context (.task target) = (context.record (.task target), .ok ()) := by
  cases depth <;> rfl

/-- An expansion whose depth exceeds the number of contributors left has a walk. -/
theorem hasWalk_expand
    (depth : Nat)
    (context : Context)
    (declaration : Declaration)
    (enough : context.unvisited contributors < depth) :
    HasWalk contributors context (.call (.add declaration))
      (expand contributors depth context declaration) := by
  induction depth generalizing context declaration with
  | zero => exact (Nat.not_lt_zero _ enough).elim
  | succ depth ih =>
      cases declaration with
      | task target => exact ⟨[], .node rfl⟩
      | work action => exact ⟨[], .node rfl⟩
      | other value => exact ⟨[], .foreign⟩
      | contributor shape place =>
          rw [expand]
          split
          · next known => exact ⟨_, .known (Or.inl known)⟩
          · next unknown =>
              have fresh : context.hasVisited place = false := Bool.not_eq_true _ ▸ unknown
              split
              · next absent => exact ⟨_, .known (Or.inr (List.getElem?_eq_none_iff.mp absent))⟩
              · next contributor present =>
                  have inTable : place < contributors.length :=
                    (List.getElem?_eq_some_iff.mp present).1
                  let entered := context.enter shape place (contributor.displayName shape)
                  have fewer : entered.unvisited contributors < context.unvisited contributors :=
                    unvisited_enter fresh inTable
                  have nested (inner : Context) (declaration : Declaration)
                      (few : inner.unvisited contributors ≤ entered.unvisited contributors) :
                      HasWalk contributors inner (.call (.add declaration))
                        (expand contributors depth inner declaration) :=
                    ih inner declaration (by omega)
                  rcases hasWalk_follow nested (contributor.performance context.owner shape)
                      entered (Nat.le_refl _) with ⟨moments, visit⟩
                  refine ⟨.presented shape place context.retained :: .entered shape place ::
                    (moments ++ [.left place]), ?_⟩
                  simp only [visitContributor,
                    contribute_eq_follow (expand_task contributors depth), enter_owner]
                  exact .first fresh present visit

/-- Every call on every context comes to an end, and the context computes what becomes of it. -/
theorem walk_perform (contributors : Contributors) (context : Context) (call : ContextCall) :
    ∃ moments,
      Walk contributors context (.call call) moments
        (context.perform contributors call).1 (context.perform contributors call).2 := by
  have added (declaration : Declaration) :=
    hasWalk_expand (contributors.length + 1) context declaration
      (Nat.lt_succ_of_le (unvisited_le_length contributors context))
  cases call with
  | add declaration => exact added declaration
  | maybeAdd declaration => exact hasWalk_maybeAddWith (added declaration)
  | fail cause => exact ⟨[], .failure⟩

/-- Every sequence of calls comes to an end. -/
theorem walks_performAll
    (contributors : Contributors)
    (context : Context)
    (calls : List ContextCall) :
    ∃ moments,
      Walks contributors context calls moments (context.performAll contributors calls) := by
  induction calls generalizing context with
  | nil => exact ⟨[], .done⟩
  | cons call calls ih =>
      rcases walk_perform contributors context call with ⟨moments, head⟩
      rcases ih (context.perform contributors call).1 with ⟨later, tail⟩
      exact ⟨moments ++ later, .call head tail⟩

theorem Consistent.perform
    {context : Context}
    (consistent : context.Consistent)
    (contributors : Contributors)
    (call : ContextCall) :
    (context.perform contributors call).1.Consistent := by
  rcases walk_perform contributors context call with ⟨moments, walk⟩
  exact walk.consistent consistent

/-- Calls one after the other keep the keys seen those of the nodes. -/
theorem Consistent.performAll
    {context : Context}
    (consistent : context.Consistent)
    (contributors : Contributors)
    (calls : List ContextCall) :
    (context.performAll contributors calls).Consistent := by
  induction calls generalizing context with
  | nil => exact consistent
  | cons call calls ih => exact ih (consistent.perform contributors call)

end Context

end TaskDispatch
