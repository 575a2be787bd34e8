import TaskDispatch.Proofs.Resolution.Closure

/-!
# Unfoldings

A context remembers which contributors it has visited and passes them over when it meets them again.
Without such a memory every contributor is visited again each time it is met, and what is then met
of tasks and work actions, from left to right, is the *unfolding* of the calls made.  A cycle has no
unfolding, and neither has a call that ends with an error.

The main statement, `nodes_eq_unfolding`, is about calls from which nothing cyclic and no value that
is no dependency can be reached: they have an unfolding, and the nodes of the context are this
unfolding without all but the first node of each key.

To pass a contributor over is to leave out its whole unfolding, so the unfolding has to be recorded
by then.  The invariant says so of every visited contributor that can still be met.  A contributor
in the middle of its visit is not one of them, because it cannot be met again without a cycle.
Since a walk always comes to an end, the unfoldings are found along it.
-/

namespace TaskDispatch

open ContextCall

/-! ## Recording nodes in order -/

namespace Node

/-- True if two nodes have the same key. -/
def sameKey (node other : Node) : Bool := node.key == other.key

/-- The nodes held after more nodes are met: each whose key is not held yet is added at the end. -/
def recordAll (held met : List Node) : List Node :=
  met.foldl (fun held node => if held.any node.sameKey then held else held ++ [node]) held

theorem recordAll_cons (held : List Node) (node : Node) (met : List Node) :
    recordAll held (node :: met) =
      recordAll (if held.any node.sameKey then held else held ++ [node]) met := rfl

theorem recordAll_append (held met later : List Node) :
    recordAll held (met ++ later) = recordAll (recordAll held met) later :=
  List.foldl_append

theorem subset_recordAll (held met : List Node) : held ⊆ recordAll held met := by
  induction met generalizing held with
  | nil => exact List.Subset.refl held
  | cons node met ih =>
      rw [recordAll_cons]
      split
      · exact ih held
      · exact List.Subset.trans (List.subset_append_left held [node]) (ih _)

theorem any_sameKey_of_subset
    {held more : List Node}
    {node : Node}
    (subset : held ⊆ more)
    (any : held.any node.sameKey = true) :
    more.any node.sameKey = true := by
  rw [List.any_eq_true] at any ⊢
  rcases any with ⟨other, member, same⟩
  exact ⟨other, subset member, same⟩

/-- The key of every node met is held afterwards. -/
theorem any_recordAll
    {node : Node}
    {met : List Node}
    (member : node ∈ met)
    (held : List Node) :
    (recordAll held met).any node.sameKey = true := by
  induction met generalizing held with
  | nil => cases member
  | cons first met ih =>
      rw [recordAll_cons]
      rcases List.mem_cons.1 member with rfl | later
      · apply any_sameKey_of_subset (subset_recordAll _ _)
        split
        · assumption
        · simp [sameKey]
      · exact ih later _

/-- Nodes whose keys are held already change nothing. -/
theorem recordAll_of_held
    {held met : List Node}
    (known : ∀ node ∈ met, held.any node.sameKey = true) :
    recordAll held met = held := by
  induction met with
  | nil => rfl
  | cons node met ih =>
      rw [List.forall_mem_cons] at known
      rw [recordAll_cons, if_pos known.1, ih known.2]

/-- What is added is the first node of each key that was not held. -/
theorem recordAll_eq (held met : List Node) :
    recordAll held met =
      held ++ (met.filter fun node => !held.any node.sameKey).eraseDupsBy sameKey := by
  induction met generalizing held with
  | nil => simp [recordAll]
  | cons node met ih =>
      rw [recordAll_cons, ih]
      by_cases known : held.any node.sameKey = true
      · rw [if_pos known, List.filter_cons_of_neg (by simpa using known)]
      · rw [if_neg known, List.filter_cons_of_pos (by simpa using known), List.eraseDupsBy_cons,
          List.append_assoc, List.singleton_append, List.filter_filter]
        congr 3
        apply List.filter_congr
        intro other _
        simp [sameKey, beq_eq_decide, Bool.and_comm]

theorem recordAll_nil (met : List Node) : recordAll [] met = met.eraseDupsBy sameKey := by
  rw [recordAll_eq]
  simp

end Node

/-- A context that has seen the keys of its nodes records a node as it is to be recorded. -/
theorem Context.Consistent.record_nodes
    {context : Context}
    (consistent : context.Consistent)
    (node : Node) :
    (context.record node).nodes = Node.recordAll context.nodes [node] := by
  have any_eq : context.contains node.key = context.nodes.any node.sameKey := by
    rw [Bool.eq_iff_iff, consistent.contains_iff]
    simp [Node.sameKey, @eq_comm _ node.key]
  rw [Node.recordAll_cons, ← any_eq, Context.record]
  split <;> rfl

/-! ## Unfolding without a memory -/

/-- True of the tasks and work actions that an errand meets, in order, if contributors are visited
each time they are met and all calls succeed. -/
inductive Unfolds (contributors : Contributors) (owner : Option Task) :
    Errand → List Node → Prop where
  | node {declaration : Declaration} {node : Node}
      (isNode : declaration.node? = some node) :
      Unfolds contributors owner (.call (.add declaration)) [node]
  /-- A contributor that does not exist contributes nothing. -/
  | absent {shape : Shape} {place : ContributorId}
      (absent : contributors.length ≤ place) :
      Unfolds contributors owner (.call (.add (.contributor shape place))) []
  | visit {shape : Shape} {place : ContributorId} {contributor : Contributor} {nodes : List Node}
      (present : contributors[place]? = some contributor)
      (visit : Unfolds contributors owner (.follow (contributor.performance owner shape)) nodes) :
      Unfolds contributors owner (.call (.add (.contributor shape place))) nodes
  | ignored {value : ForeignValue} :
      Unfolds contributors owner (.call (.maybeAdd (.other value))) []
  | supported {declaration : Declaration} {nodes : List Node}
      (supported : declaration.isSupported = true)
      (added : Unfolds contributors owner (.call (.add declaration)) nodes) :
      Unfolds contributors owner (.call (.maybeAdd declaration)) nodes
  | failure {cause : Cause} : Unfolds contributors owner (.call (.fail cause)) []
  | finish : Unfolds contributors owner (.follow .finish) []
  | add {declaration : Declaration} {next : AddResult → Visit} {nodes later : List Node}
      (head : Unfolds contributors owner (.call (.add declaration)) nodes)
      (tail : Unfolds contributors owner (.follow (next (.ok ()))) later) :
      Unfolds contributors owner (.follow (.add declaration next)) (nodes ++ later)
  | maybeAdd {declaration : Declaration} {next : AddResult → Visit} {nodes later : List Node}
      (head : Unfolds contributors owner (.call (.maybeAdd declaration)) nodes)
      (tail : Unfolds contributors owner (.follow (next (.ok ()))) later) :
      Unfolds contributors owner (.follow (.maybeAdd declaration next)) (nodes ++ later)
  | fail {cause : Cause} {next : Visit} {nodes : List Node}
      (tail : Unfolds contributors owner (.follow next) nodes) :
      Unfolds contributors owner (.follow (.fail cause next)) nodes
  | declare {task : Identity} {declaration : Declaration} {next : Visit} {nodes : List Node}
      (tail : Unfolds contributors owner (.follow next) nodes) :
      Unfolds contributors owner (.follow (.declare task declaration next)) nodes

/-- True of the tasks and work actions that calls made one after the other meet, in order. -/
inductive UnfoldsAll (contributors : Contributors) (owner : Option Task) :
    List ContextCall → List Node → Prop where
  | nil : UnfoldsAll contributors owner [] []
  | cons {call : ContextCall} {calls : List ContextCall} {nodes later : List Node}
      (head : Unfolds contributors owner (.call call) nodes)
      (tail : UnfoldsAll contributors owner calls later) :
      UnfoldsAll contributors owner (call :: calls) (nodes ++ later)

variable {contributors : Contributors} {owner : Option Task} {context middle after : Context}
  {errand : Errand} {moments : List Moment} {result : AddResult} {within : ContextCall → Prop}
  {shapeOf : ContributorId → Shape}

theorem Unfolds.deterministic
    {nodes other : List Node}
    (unfolds : Unfolds contributors owner errand nodes)
    (another : Unfolds contributors owner errand other) :
    nodes = other := by
  induction unfolds generalizing other with
  | node isNode =>
      cases another with
      | node isOther =>
          cases isNode.symm.trans isOther
          rfl
      | _ => cases isNode
  | absent absent =>
      cases another with
      | node isNode => cases isNode
      | absent => rfl
      | visit present =>
          rw [List.getElem?_eq_none absent] at present
          cases present
  | visit present _ ih =>
      cases another with
      | node isNode => cases isNode
      | absent absent =>
          rw [List.getElem?_eq_none absent] at present
          cases present
      | visit present' visit =>
          cases present.symm.trans present'
          exact ih visit
  | ignored =>
      cases another with
      | ignored => rfl
      | supported supported => cases supported
  | supported supported _ ih =>
      cases another with
      | ignored => cases supported
      | supported _ added => exact ih added
  | failure =>
      cases another with
      | failure => rfl
  | finish =>
      cases another with
      | finish => rfl
  | add _ _ headIH tailIH =>
      cases another with
      | add head tail => rw [headIH head, tailIH tail]
  | maybeAdd _ _ headIH tailIH =>
      cases another with
      | maybeAdd head tail => rw [headIH head, tailIH tail]
  | fail _ ih =>
      cases another with
      | fail tail => exact ih tail
  | declare _ ih =>
      cases another with
      | declare tail => exact ih tail

theorem UnfoldsAll.deterministic
    {calls : List ContextCall}
    {nodes other : List Node}
    (unfolds : UnfoldsAll contributors owner calls nodes)
    (another : UnfoldsAll contributors owner calls other) :
    nodes = other := by
  induction unfolds generalizing other with
  | nil =>
      cases another with
      | nil => rfl
  | cons head _ ih =>
      cases another with
      | cons head' tail => rw [head.deterministic head', ih tail]

/-! ## Visits that raise nothing of their own -/

/-- True of a visit that ends well if all its calls do. -/
def Visit.Willing : Visit → Prop
  | .finish => True
  | .raise _ => False
  | .add _ next => (next (.ok ())).Willing
  | .maybeAdd _ next => (next (.ok ())).Willing
  | .fail _ next => next.Willing
  | .declare _ _ next => next.Willing

theorem Visit.willing_ofCalls (persistent : Bool) (calls : List ContextCall) :
    (ofCalls persistent calls none).Willing := by
  induction calls with
  | nil => exact trivial
  | cons call calls ih => cases call <;> exact ih

theorem Visit.willing_addAll (declarations : List Declaration) : (addAll declarations).Willing := by
  rw [addAll_eq_ofCalls]
  exact willing_ofCalls _ _

namespace Contributor

variable {contributor : Contributor}

theorem MakesCalls.willing (makesCalls : contributor.MakesCalls owner) :
    (contributor.visit owner).Willing := by
  rcases makesCalls with ⟨persistent, calls, visits⟩
  rw [visits]
  exact Visit.willing_ofCalls persistent calls

/-- Collections of tasks and buildables never raise an error of their own. -/
theorem willing_performance
    (willing : (contributor.visit owner).Willing)
    (shape : Shape) :
    (contributor.performance owner shape).Willing := by
  cases shape with
  | tasks =>
      unfold performance
      cases contributor.tasks owner with
      | ok members => exact Visit.willing_addAll _
      | error cause => trivial
  | buildable =>
      unfold performance
      cases contributor.build with
      | ok declaration => exact Visit.willing_addAll _
      | error cause => trivial
  | container => exact willing
  | transformation => exact willing

end Contributor

/-- True of an errand that ends well if all its calls do. -/
def Errand.Willing : Errand → Prop
  | .call _ => True
  | .follow visit => visit.Willing

/-! ## What is passed over has been recorded -/

/-- True if no call reachable from the calls leads back to itself. -/
def Acyclic (contributors : Contributors) (owner : Option Task) (calls : List ContextCall) : Prop :=
  ∀ call,
    ReachedFrom contributors owner calls call →
      ¬ Relation.TransGen (Prompts contributors owner) call call

/-- A set of calls that can be unfolded, with the shapes of the contributors in it. -/
structure Unfoldable
    (contributors : Contributors)
    (owner : Option Task)
    (within : ContextCall → Prop)
    (shapeOf : ContributorId → Shape) :
    Prop where
  willing : ∀ contributor ∈ contributors, (contributor.visit owner).Willing
  closed : Closed contributors owner within
  oneShape : ∀ shape place, within (.add (.contributor shape place)) → shape = shapeOf place
  supported : ∀ value, ¬ within (.add (.other value))
  acyclic : ∀ call, within call → ¬ Relation.TransGen (Prompts contributors owner) call call

/-- True if an errand may come to make a call, at once or through contributors. -/
def Errand.Leads
    (contributors : Contributors)
    (owner : Option Task)
    (other : ContextCall) :
    Errand → Prop
  | .call made => made.Reaches contributors owner other
  | .follow visit => ∃ made, visit.Mentions made ∧ made.Reaches contributors owner other

/-- True if everything that a contributor contributes has been recorded. -/
def Exhausted
    (contributors : Contributors)
    (owner : Option Task)
    (shapeOf : ContributorId → Shape)
    (context : Context)
    (place : ContributorId) :
    Prop :=
  ∃ nodes,
    Unfolds contributors owner (.call (.add (.contributor (shapeOf place) place))) nodes ∧
      ∀ node ∈ nodes, context.nodes.any node.sameKey = true

theorem Exhausted.mono
    {place : ContributorId}
    (exhausted : Exhausted contributors owner shapeOf context place)
    (subset : context.nodes ⊆ after.nodes) :
    Exhausted contributors owner shapeOf after place := by
  rcases exhausted with ⟨nodes, unfolds, known⟩
  exact ⟨nodes, unfolds, fun node member => Node.any_sameKey_of_subset subset (known node member)⟩

/-- True if every visited contributor that an errand may meet is exhausted. -/
def ExhaustedBefore
    (contributors : Contributors)
    (owner : Option Task)
    (shapeOf : ContributorId → Shape)
    (context : Context)
    (errand : Errand) :
    Prop :=
  ∀ place ∈ context.visited,
    errand.Leads contributors owner (.add (.contributor (shapeOf place) place)) →
      Exhausted contributors owner shapeOf context place

/-- An errand has met its unfolding: it ends well, the nodes of the unfolding have been recorded,
and the contributors that it visited are exhausted. -/
structure MeetsUnfolding
    (contributors : Contributors)
    (owner : Option Task)
    (shapeOf : ContributorId → Shape)
    (context after : Context)
    (errand : Errand)
    (result : AddResult)
    (nodes : List Node) :
    Prop where
  succeeds : result = .ok ()
  unfolds : Unfolds contributors owner errand nodes
  recorded : after.nodes = Node.recordAll context.nodes nodes
  exhausts :
    ∀ place ∈ after.visited, place ∉ context.visited →
      Exhausted contributors owner shapeOf after place

namespace MeetsUnfolding

variable {nodes : List Node}

theorem subset
    (meets : MeetsUnfolding contributors owner shapeOf context after errand result nodes) :
    context.nodes ⊆ after.nodes := by
  rw [meets.recorded]
  exact Node.subset_recordAll _ _

/-- An errand that visits nothing. -/
theorem of_visited_eq
    (unfolds : Unfolds contributors owner errand nodes)
    (recorded : after.nodes = Node.recordAll context.nodes nodes)
    (same : after.visited = context.visited) :
    MeetsUnfolding contributors owner shapeOf context after errand (.ok ()) nodes := by
  refine ⟨rfl, unfolds, recorded, ?_⟩
  intro place visited new
  rw [same] at visited
  exact absurd visited new

/-- What may be met after an errand was exhausted before it, or by it. -/
theorem exhaustedBefore
    {later : Errand}
    (meets : MeetsUnfolding contributors owner shapeOf context middle errand result nodes)
    (before : ExhaustedBefore contributors owner shapeOf context later) :
    ExhaustedBefore contributors owner shapeOf middle later := by
  intro place visited leads
  by_cases earlier : place ∈ context.visited
  · exact (before place earlier leads).mono meets.subset
  · exact meets.exhausts place visited earlier

/-- An errand made of two parts. -/
theorem append
    {first second whole : Errand}
    {outcome : AddResult}
    {later : List Node}
    (head : MeetsUnfolding contributors owner shapeOf context middle first outcome nodes)
    (tail : MeetsUnfolding contributors owner shapeOf middle after second result later)
    (unfolds : Unfolds contributors owner whole (nodes ++ later)) :
    MeetsUnfolding contributors owner shapeOf context after whole result (nodes ++ later) where
  succeeds := tail.succeeds
  unfolds := unfolds
  recorded := by rw [tail.recorded, head.recorded, Node.recordAll_append]
  exhausts := by
    intro place visited new
    by_cases earlier : place ∈ middle.visited
    · exact (head.exhausts place earlier new).mono tail.subset
    · exact tail.exhausts place visited earlier

end MeetsUnfolding

/-- A walk in a set of calls that can be unfolded meets its unfolding, if the visited contributors
that it may meet are exhausted. -/
theorem Walk.meetsUnfolding
    (unfoldable : Unfoldable contributors owner within shapeOf)
    (walk : Walk contributors context errand moments after result)
    (sameOwner : context.owner = owner)
    (consistent : context.Consistent)
    (start : errand.Within within)
    (willing : errand.Willing)
    (before : ExhaustedBefore contributors owner shapeOf context errand) :
    ∃ nodes, MeetsUnfolding contributors owner shapeOf context after errand result nodes := by
  induction walk with
  | @node context declaration node isNode =>
      exact ⟨_, .of_visited_eq (.node isNode) (consistent.record_nodes node) (by simp)⟩
  | foreign => exact absurd start (unfoldable.supported _)
  | @known context shape place known =>
      rcases known with visited | absent
      · rw [context.hasVisited_iff] at visited
        have sameShape := unfoldable.oneShape shape place start
        subst sameShape
        rcases before place visited .refl with ⟨nodes, unfolds, held⟩
        exact ⟨nodes, .of_visited_eq unfolds (Node.recordAll_of_held held).symm rfl⟩
      · exact ⟨[], .of_visited_eq (.absent absent) rfl rfl⟩
  | @first context after shape place contributor moments result fresh present visit ih =>
      subst sameOwner
      have sameShape := unfoldable.oneShape shape place start
      have onward {call : ContextCall}
          (mentioned : (contributor.performance context.owner shape).Mentions call) :
          Prompts contributors context.owner (.add (.contributor shape place)) call :=
        .visit present mentioned
      have entered :
          ExhaustedBefore contributors context.owner shapeOf
            (context.enter shape place (contributor.displayName shape))
            (.follow (contributor.performance context.owner shape)) := by
        rintro other visited ⟨call, mentioned, reaches⟩
        rcases List.mem_append.1 visited with earlier | itself
        · exact before other earlier (.head (onward mentioned) reaches)
        · -- The contributor itself could be met again only in a cycle.
          rw [List.mem_singleton] at itself
          subst itself
          rw [← sameShape] at reaches
          exact absurd (Relation.TransGen.head' (onward mentioned) reaches)
            (unfoldable.acyclic _ start)
      rcases ih rfl consistent
          (fun call mentioned => unfoldable.closed _ _ start (onward mentioned))
          (Contributor.willing_performance
            (unfoldable.willing contributor (List.mem_of_getElem? present)) shape)
          entered with
        ⟨nodes, succeeds, unfolds, recorded, exhausts⟩
      refine ⟨nodes, succeeds, .visit present unfolds, recorded, ?_⟩
      intro other visited new
      by_cases same : other = place
      · subst same
        refine ⟨nodes, ?_, ?_⟩
        · rw [← sameShape]
          exact .visit present unfolds
        · intro node member
          rw [Context.leave_nodes, recorded]
          exact Node.any_recordAll member _
      · refine exhausts other visited ?_
        simp [new, same]
  | ignored => exact ⟨[], .of_visited_eq .ignored rfl rfl⟩
  | supported supported _ ih =>
      have prompts : Prompts contributors owner _ _ := .supported supported
      rcases ih sameOwner consistent (unfoldable.closed _ _ start prompts) trivial
          (fun place visited leads => before place visited (.head prompts leads)) with
        ⟨nodes, succeeds, unfolds, recorded, exhausts⟩
      exact ⟨nodes, succeeds, .supported supported unfolds, recorded, exhausts⟩
  | failure => exact ⟨[], .of_visited_eq .failure rfl rfl⟩
  | finish => exact ⟨[], .of_visited_eq .finish rfl rfl⟩
  | raise => exact willing.elim
  | add head _ headIH tailIH =>
      rcases headIH sameOwner consistent (start _ (.inl rfl)) trivial
          (fun place visited leads => before place visited ⟨_, .inl rfl, leads⟩) with
        ⟨nodes, first⟩
      cases first.succeeds
      rcases tailIH (head.owner.trans sameOwner) (head.consistent consistent)
          (fun call mentioned => start call (.inr ⟨_, mentioned⟩)) willing
          (first.exhaustedBefore fun place visited ⟨call, mentioned, reaches⟩ =>
            before place visited ⟨call, .inr ⟨_, mentioned⟩, reaches⟩) with
        ⟨later, second⟩
      exact ⟨_, first.append second (.add first.unfolds second.unfolds)⟩
  | maybeAdd head _ headIH tailIH =>
      rcases headIH sameOwner consistent (start _ (.inl rfl)) trivial
          (fun place visited leads => before place visited ⟨_, .inl rfl, leads⟩) with
        ⟨nodes, first⟩
      cases first.succeeds
      rcases tailIH (head.owner.trans sameOwner) (head.consistent consistent)
          (fun call mentioned => start call (.inr ⟨_, mentioned⟩)) willing
          (first.exhaustedBefore fun place visited ⟨call, mentioned, reaches⟩ =>
            before place visited ⟨call, .inr ⟨_, mentioned⟩, reaches⟩) with
        ⟨later, second⟩
      exact ⟨_, first.append second (.maybeAdd first.unfolds second.unfolds)⟩
  | fail _ ih =>
      rcases ih sameOwner consistent (fun call mentioned => start call (.inr mentioned)) willing
          (fun place visited ⟨call, mentioned, reaches⟩ =>
            before place visited ⟨call, .inr mentioned, reaches⟩) with
        ⟨nodes, succeeds, unfolds, recorded, exhausts⟩
      exact ⟨nodes, succeeds, .fail unfolds, recorded, exhausts⟩
  | declare _ ih =>
      rcases ih sameOwner consistent start willing before with
        ⟨nodes, succeeds, unfolds, recorded, exhausts⟩
      exact ⟨nodes, succeeds, .declare unfolds, recorded, exhausts⟩

/-! ## Calls one after the other -/

theorem Context.performAll_meetsUnfolding
    (unfoldable : Unfoldable contributors owner within shapeOf)
    (context : Context)
    (sameOwner : context.owner = owner)
    (consistent : context.Consistent)
    (calls : List ContextCall)
    (start : ∀ call ∈ calls, within call)
    (before : ∀ call ∈ calls, ExhaustedBefore contributors owner shapeOf context (.call call)) :
    ∃ nodes,
      UnfoldsAll contributors owner calls nodes ∧
        (context.performAll contributors calls).nodes = Node.recordAll context.nodes nodes := by
  induction calls generalizing context with
  | nil => exact ⟨[], .nil, rfl⟩
  | cons call calls ih =>
      rw [List.forall_mem_cons] at start before
      rcases walk_perform contributors context call with ⟨moments, walk⟩
      rcases walk.meetsUnfolding unfoldable sameOwner consistent start.1 trivial before.1 with
        ⟨nodes, meets⟩
      rcases ih _ (walk.owner.trans sameOwner) (walk.consistent consistent) start.2
          (fun other member => meets.exhaustedBefore (before.2 other member)) with
        ⟨later, unfolds, recorded⟩
      refine ⟨nodes ++ later, .cons meets.unfolds unfolds, ?_⟩
      rw [performAll_cons, recorded, meets.recorded, Node.recordAll_append]

/-- Calls from which nothing cyclic and no value that is no dependency can be reached have exactly
one unfolding, and a fresh context on which they are made holds of it the first node of each key,
in order. -/
theorem nodes_eq_unfolding
    (contributors : Contributors)
    (owner : Option Task)
    (calls : List ContextCall)
    (shapeOf : ContributorId → Shape)
    (willing : ∀ contributor ∈ contributors, (contributor.visit owner).Willing)
    (oneShape : OneShape contributors owner calls shapeOf)
    (clean : ∀ call ∈ calls, call.Clean contributors owner)
    (acyclic : Acyclic contributors owner calls) :
    ∃ unfolding,
      (∀ nodes, UnfoldsAll contributors owner calls nodes ↔ nodes = unfolding) ∧
        ((Context.fresh owner).performAll contributors calls).nodes =
          unfolding.eraseDupsBy Node.sameKey := by
  have unfoldable :
      Unfoldable contributors owner (ReachedFrom contributors owner calls) shapeOf :=
    { willing, oneShape, acyclic
      closed := closed_reachedFrom contributors owner calls
      supported := by
        rintro value ⟨call, member, reaches⟩
        exact clean call member value reaches }
  rcases Context.performAll_meetsUnfolding unfoldable (.fresh owner) rfl
      (Context.consistent_fresh owner) calls
      (reachedFrom_of_mem contributors owner calls)
      (fun _ _ place visited => absurd visited List.not_mem_nil) with
    ⟨unfolding, unfolds, recorded⟩
  refine ⟨unfolding, ?_, ?_⟩
  · intro nodes
    constructor
    · intro another
      exact another.deterministic unfolds
    · rintro rfl
      exact unfolds
  · rw [recorded]
    exact Node.recordAll_nil unfolding

/-- Nothing is cyclic if every call prompts only calls of lower rank. -/
theorem Acyclic.of_rank
    {calls : List ContextCall}
    (rank : ContextCall → Nat)
    (descends :
      ∀ call other,
        ReachedFrom contributors owner calls call → Prompts contributors owner call other →
          rank other < rank call) :
    Acyclic contributors owner calls := by
  intro call reached cycle
  have lower {other : ContextCall}
      (leads : Relation.TransGen (Prompts contributors owner) call other) :
      ReachedFrom contributors owner calls other ∧ rank other < rank call := by
    induction leads with
    | single prompts =>
        exact ⟨closed_reachedFrom _ _ _ _ _ reached prompts, descends _ _ reached prompts⟩
    | tail _ prompts ih =>
        exact ⟨closed_reachedFrom _ _ _ _ _ ih.1 prompts, (descends _ _ ih.1 prompts).trans ih.2⟩
  exact lt_irrefl _ (lower cycle).2

/-! ## A collection met three times -/

namespace SharedCollection

def compile : Task := ⟨⟨1⟩, ":compile"⟩

def link : Task := ⟨⟨2⟩, ":link"⟩

def sweep : WorkAction := ⟨⟨1⟩, .finalize, "sweep"⟩

def broken : Cause := .ofText "broken"

/-- A collection of tasks, a buildable that fails, and a container that adds the collection before
and after the buildable and a work action. -/
def sharing : Contributors :=
  [ .taskSet [compile, link],
    .failingBuildable "broken" broken,
    .dependencySet
      [ .contributor .tasks 0, .contributor .buildable 1, .work sweep,
        .contributor .tasks 0 ] ]

def shapeInSharing : ContributorId → Shape
  | 0 => .tasks
  | 1 => .buildable
  | _ => .container

/-- The calls made: the container, once more the collection, and one of its tasks. -/
def callsIntoSharing : List ContextCall :=
  [.add (.contributor .container 2), .add (.contributor .tasks 0), .add (.task compile)]

/-- The calls that these lead to. -/
inductive Met : ContextCall → Prop where
  | contributor (place : ContributorId) : Met (.add (.contributor (shapeInSharing place) place))
  | failure : Met (.fail broken)
  | task (target : Task) : Met (.add (.task target))
  | work : Met (.add (.work sweep))

def rank : ContextCall → Nat
  | .add (.contributor _ place) => place + 1
  | _ => 0

theorem met_of_prompts
    {call other : ContextCall}
    (met : Met call)
    (prompts : Prompts sharing none call other) :
    Met other ∧ rank other < rank call := by
  cases met with
  | contributor place =>
      cases prompts with
      | visit present mentioned =>
          match place with
          | 0 =>
              cases present
              replace mentioned : (Visit.addAll [.task compile, .task link]).Mentions other :=
                mentioned
              rw [Visit.addAll_eq_ofCalls, Visit.mentions_ofCalls] at mentioned
              rcases List.mem_pair.1 mentioned with rfl | rfl
              · exact ⟨.task compile, Nat.zero_lt_one⟩
              · exact ⟨.task link, Nat.zero_lt_one⟩
          | 1 =>
              cases present
              rcases mentioned with rfl | none
              · exact ⟨.failure, Nat.zero_lt_two⟩
              · exact none.elim
          | 2 =>
              cases present
              replace mentioned :
                  (Visit.addAll
                    [ .contributor .tasks 0, .contributor .buildable 1, .work sweep,
                      .contributor .tasks 0 ]).Mentions other :=
                mentioned
              rw [Visit.addAll_eq_ofCalls, Visit.mentions_ofCalls] at mentioned
              simp only [List.map_cons, List.map_nil, List.mem_cons, List.not_mem_nil,
                or_false] at mentioned
              rcases mentioned with rfl | rfl | rfl | rfl
              · exact ⟨.contributor 0, by decide⟩
              · exact ⟨.contributor 1, by decide⟩
              · exact ⟨.work, by decide⟩
              · exact ⟨.contributor 0, by decide⟩
  | _ => cases prompts

theorem met_of_reachedFrom
    {call : ContextCall}
    (reached : ReachedFrom sharing none callsIntoSharing call) :
    Met call := by
  have closed : Closed sharing none Met := fun _ _ met prompts => (met_of_prompts met prompts).1
  rcases reached with ⟨first, member, reaches⟩
  refine closed.of_reaches reaches ?_
  simp only [callsIntoSharing, List.mem_cons, List.not_mem_nil, or_false] at member
  rcases member with rfl | rfl | rfl
  · exact .contributor 2
  · exact .contributor 0
  · exact .task compile

theorem willing_sharing : ∀ contributor ∈ sharing, (contributor.visit none).Willing := by
  simp only [sharing, List.forall_mem_cons]
  exact ⟨trivial, trivial, Visit.willing_addAll _, by simp⟩

theorem oneShape_sharing : OneShape sharing none callsIntoSharing shapeInSharing := by
  intro shape place reached
  cases met_of_reachedFrom reached
  rfl

theorem clean_sharing : ∀ call ∈ callsIntoSharing, call.Clean sharing none := by
  intro call member value reaches
  cases met_of_reachedFrom ⟨call, member, reaches⟩

theorem acyclic_sharing : Acyclic sharing none callsIntoSharing :=
  .of_rank rank fun _ _ reached prompts => (met_of_prompts (met_of_reachedFrom reached) prompts).2

theorem unfoldsAll_sharing :
    UnfoldsAll sharing none callsIntoSharing
      [ .task compile, .task link, .work sweep, .task compile, .task link, .task compile,
        .task link, .task compile ] := by
  have collection :
      Unfolds sharing none (.call (.add (.contributor .tasks 0)))
        [.task compile, .task link] :=
    .visit rfl (.add (.node rfl) (.add (.node rfl) .finish))
  have buildable : Unfolds sharing none (.call (.add (.contributor .buildable 1))) [] :=
    .visit rfl (.fail .finish)
  have container :
      Unfolds sharing none (.call (.add (.contributor .container 2)))
        [.task compile, .task link, .work sweep, .task compile, .task link] :=
    .visit rfl
      (.add collection (.add buildable (.add (.node rfl) (.add collection .finish))))
  exact .cons container (.cons collection (.cons (.node rfl) .nil))

/-- The collection is met three times, and each of its tasks is recorded once, where it was met
first. -/
theorem recorded_once :
    (∀ contributor ∈ sharing, (contributor.visit none).Willing) ∧
      OneShape sharing none callsIntoSharing shapeInSharing ∧
      (∀ call ∈ callsIntoSharing, call.Clean sharing none) ∧
      Acyclic sharing none callsIntoSharing ∧
      ((Context.fresh none).performAll sharing callsIntoSharing).nodes =
        [.task compile, .task link, .work sweep] := by
  refine ⟨willing_sharing, oneShape_sharing, clean_sharing, acyclic_sharing, ?_⟩
  rcases nodes_eq_unfolding sharing none callsIntoSharing shapeInSharing willing_sharing
      oneShape_sharing clean_sharing acyclic_sharing with
    ⟨unfolding, unique, recorded⟩
  rw [recorded, ← (unique _).1 unfoldsAll_sharing]
  decide

end SharedCollection

end TaskDispatch
