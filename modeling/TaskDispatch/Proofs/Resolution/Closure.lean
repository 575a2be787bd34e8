import TaskDispatch.Proofs.Resolution.Walk

/-!
# What is reachable is recorded

Every node that a walk records is reachable from one of the calls made on the context.  Conversely,
if each contributor makes a fixed list of calls and is always presented under one shape, a call that
leads to no value that is no dependency ends well and everything reachable from it is recorded,
whatever has become of other calls.

A contributor that was visited before is passed over, also if its visit ended with an error half
way.  The converse holds nevertheless, because no clean contributor ever ends with an error.  The
invariant that carries it through cycles is about the contributors that a walk visits first: each
clean one is *settled* when the walk is over, that is, everything that it hands over has been
recorded or visited.  Contributors visited before the walk may still be in the middle of their
visits, and nothing is said about them.
-/

namespace TaskDispatch

open ContextCall

/-- True if all calls that an errand may come to make belong to a set. -/
def Errand.Within (within : ContextCall → Prop) : Errand → Prop
  | .call made => within made
  | .follow visit => ∀ call, visit.Mentions call → within call

/-- True if every contributor reachable from the calls is presented under one shape only. -/
def OneShape
    (contributors : Contributors)
    (owner : Option Task)
    (calls : List ContextCall)
    (shapeOf : ContributorId → Shape) :
    Prop :=
  ∀ shape place,
    ReachedFrom contributors owner calls (.add (.contributor shape place)) →
      shape = shapeOf place

theorem OneShape.mono
    {contributors : Contributors}
    {owner : Option Task}
    {part calls : List ContextCall}
    {shapeOf : ContributorId → Shape}
    (oneShape : OneShape contributors owner calls shapeOf)
    (among : part ⊆ calls) :
    OneShape contributors owner part shapeOf := by
  rintro shape place ⟨call, member, reaches⟩
  exact oneShape shape place ⟨call, among member, reaches⟩

variable {contributors : Contributors} {owner : Option Task} {context after : Context}
  {errand : Errand} {moments : List Moment} {result : AddResult}

/-! ## Nothing else is recorded -/

/-- A walk whose calls belong to a closed set records only nodes added by calls of this set. -/
theorem Walk.mem_nodes
    {within : ContextCall → Prop}
    (closed : Closed contributors owner within)
    (walk : Walk contributors context errand moments after result)
    (sameOwner : context.owner = owner)
    (start : errand.Within within) :
    ∀ node ∈ after.nodes,
      node ∈ context.nodes ∨
        ∃ declaration, within (.add declaration) ∧ declaration.node? = some node := by
  induction walk with
  | @node context declaration recorded isNode =>
      intro node member
      unfold Context.record at member
      split at member
      · exact Or.inl member
      · rcases List.mem_append.mp member with old | new
        · exact Or.inl old
        · rw [List.mem_singleton.mp new]
          exact Or.inr ⟨declaration, start, isNode⟩
  | foreign => exact fun _ => Or.inl
  | known => exact fun _ => Or.inl
  | first fresh present _ visitIH =>
      subst sameOwner
      exact visitIH rfl fun call mentioned =>
        closed _ _ start (.visit present mentioned)
  | ignored => exact fun _ => Or.inl
  | supported supported _ walkIH =>
      exact walkIH sameOwner (closed _ _ start (.supported supported))
  | failure => exact fun _ => Or.inl
  | finish => exact fun _ => Or.inl
  | raise => exact fun _ => Or.inl
  | add head _ headIH tailIH =>
      intro node member
      have onward := tailIH (head.owner.trans sameOwner)
        fun call mentioned => start call (Or.inr ⟨_, mentioned⟩)
      rcases onward node member with recorded | added
      · exact headIH sameOwner (start _ (Or.inl rfl)) node recorded
      · exact Or.inr added
  | maybeAdd head _ headIH tailIH =>
      intro node member
      have onward := tailIH (head.owner.trans sameOwner)
        fun call mentioned => start call (Or.inr ⟨_, mentioned⟩)
      rcases onward node member with recorded | added
      · exact headIH sameOwner (start _ (Or.inl rfl)) node recorded
      · exact Or.inr added
  | fail _ tailIH =>
      exact tailIH sameOwner fun call mentioned => start call (Or.inr mentioned)
  | declare _ tailIH =>
      exact tailIH sameOwner fun call mentioned => start call mentioned

/-! ## What is handed over is handled -/

namespace Context

/-- True if a declaration has been recorded, or visited, once it was added. -/
def HasAdded (contributors : Contributors) (context : Context) (declaration : Declaration) : Prop :=
  (∀ node, declaration.node? = some node → context.contains node.key = true) ∧
    ∀ place,
      declaration.contributor? = some place → place < contributors.length →
        place ∈ context.visited

/-- A node has been recorded once it was added, unless another with its key was before. -/
theorem hasAdded_record
    {declaration : Declaration}
    {node : Node}
    (isNode : declaration.node? = some node) :
    (context.record node).HasAdded contributors declaration := by
  constructor
  · rintro other isOther
    cases isNode.symm.trans isOther
    exact context.contains_record_self node
  · intro place isContributor
    cases declaration with
    | contributor shape place => cases isNode
    | _ => cases isContributor

/-- True if a call has done what it is for. -/
def Handled (contributors : Contributors) (context : Context) : ContextCall → Prop
  | .add declaration => context.HasAdded contributors declaration
  | .maybeAdd declaration =>
      declaration.isSupported = true → context.HasAdded contributors declaration
  | .fail _ => True

/-- True if every call of a contributor under a shape has done what it is for. -/
def Settled
    (contributors : Contributors)
    (owner : Option Task)
    (context : Context)
    (shape : Shape)
    (place : ContributorId) :
    Prop :=
  ∀ contributor, contributors[place]? = some contributor →
    ∀ call, (contributor.performance owner shape).Mentions call →
      context.Handled contributors call

end Context

/-- A context has at least the nodes and the visited contributors of another. -/
structure Grows (context after : Context) : Prop where
  nodes : context.nodes <+: after.nodes
  seen : context.seen <+: after.seen
  visited : context.visited <+: after.visited

theorem Grows.trans
    {middle : Context}
    (first : Grows context middle)
    (second : Grows middle after) :
    Grows context after :=
  ⟨first.nodes.trans second.nodes, first.seen.trans second.seen,
    first.visited.trans second.visited⟩

theorem Walk.grows (walk : Walk contributors context errand moments after result) :
    Grows context after where
  nodes := walk.nodes_prefix
  seen := walk.seen_prefix
  visited := by
    rw [walk.visited]
    exact List.prefix_append _ _

namespace Grows

variable (grows : Grows context after)

include grows

theorem hasAdded
    {declaration : Declaration}
    (added : context.HasAdded contributors declaration) :
    after.HasAdded contributors declaration := by
  constructor
  · intro node isNode
    have recorded := added.1 node isNode
    rw [Context.contains_iff_mem_seen] at recorded ⊢
    exact grows.seen.subset recorded
  · intro place isContributor present
    exact grows.visited.subset (added.2 place isContributor present)

theorem handled
    {call : ContextCall}
    (handled : context.Handled contributors call) :
    after.Handled contributors call := by
  cases call with
  | add declaration => exact grows.hasAdded handled
  | maybeAdd declaration => exact fun supported => grows.hasAdded (handled supported)
  | fail cause => trivial

theorem settled
    {shape : Shape}
    {place : ContributorId}
    (settled : context.Settled contributors owner shape place) :
    after.Settled contributors owner shape place := by
  intro contributor present call mentioned
  exact grows.handled (settled contributor present call mentioned)

end Grows

/-- Every clean contributor that is visited in the second context but not in the first is settled in
the second. -/
def SettlesNew
    (contributors : Contributors)
    (owner : Option Task)
    (shapeOf : ContributorId → Shape)
    (context after : Context) :
    Prop :=
  ∀ place ∈ after.visited, place ∉ context.visited →
    Clean contributors owner (.add (.contributor (shapeOf place) place)) →
      after.Settled contributors owner (shapeOf place) place

theorem SettlesNew.trans
    {shapeOf : ContributorId → Shape}
    {middle : Context}
    (first : SettlesNew contributors owner shapeOf context middle)
    (second : SettlesNew contributors owner shapeOf middle after)
    (grows : Grows middle after) :
    SettlesNew contributors owner shapeOf context after := by
  intro place visited new clean
  by_cases earlier : place ∈ middle.visited
  · exact grows.settled (first place earlier new clean)
  · exact second place visited earlier clean

theorem settlesNew_of_visited_eq
    {shapeOf : ContributorId → Shape}
    (same : after.visited = context.visited) :
    SettlesNew contributors owner shapeOf context after := by
  intro place visited new
  rw [same] at visited
  exact (new visited).elim

/-- What is achieved by an errand that leads to no value that is no dependency. -/
def Errand.Succeeds
    (contributors : Contributors)
    (owner : Option Task)
    (after : Context)
    (result : AddResult) :
    Errand → Prop
  | .call made =>
      made.Clean contributors owner → result = .ok () ∧ after.Handled contributors made
  | .follow visit =>
      ∀ persistent calls, visit = .ofCalls persistent calls none →
        (∀ call ∈ calls, call.Clean contributors owner) →
          result = .ok () ∧ ∀ call ∈ calls, after.Handled contributors call

/-- The step of a visit made of calls from one call to the next. -/
theorem Errand.Succeeds.cons
    {middle : Context}
    {call : ContextCall}
    {next : AddResult → Visit}
    {outcome : AddResult}
    (grows : Grows middle after)
    (head : Errand.Succeeds contributors owner middle outcome (.call call))
    (tail : Errand.Succeeds contributors owner after result (.follow (next outcome)))
    {persistent : Bool}
    {calls : List ContextCall}
    (onward : next = Visit.goOn persistent none (.ofCalls persistent calls))
    (clean : ∀ other ∈ call :: calls, other.Clean contributors owner) :
    result = .ok () ∧ ∀ other ∈ call :: calls, after.Handled contributors other := by
  rw [List.forall_mem_cons] at clean
  rcases head clean.1 with ⟨rfl, handled⟩
  rcases tail persistent calls (by rw [onward]; rfl) clean.2 with ⟨succeeded, handledAll⟩
  exact ⟨succeeded, List.forall_mem_cons.mpr ⟨grows.handled handled, handledAll⟩⟩

/-- The visit of a clean contributor makes clean calls only, so it succeeds and handles them all. -/
theorem Errand.Succeeds.settled
    {contributor : Contributor}
    {shape : Shape}
    {place : ContributorId}
    (succeeds :
      Errand.Succeeds contributors owner after result
        (.follow (contributor.performance owner shape)))
    (fixed : contributor.MakesCalls owner)
    (present : contributors[place]? = some contributor)
    (clean : Clean contributors owner (.add (.contributor shape place))) :
    result = .ok () ∧ after.Settled contributors owner shape place := by
  rcases fixed.performance shape with ⟨persistent, calls, performs⟩
  have cleanCalls : ∀ call ∈ calls, call.Clean contributors owner := by
    intro call member
    rw [← Visit.mentions_ofCalls persistent calls none, ← performs] at member
    exact clean.of_reaches (.single (.visit present member))
  rcases succeeds persistent calls performs cleanCalls with ⟨succeeded, handled⟩
  refine ⟨succeeded, ?_⟩
  intro other isOther call mentioned
  cases present.symm.trans isOther
  rw [performs, Visit.mentions_ofCalls] at mentioned
  exact handled call mentioned

/-- A walk whose calls belong to a closed set in which each contributor has one shape settles the
clean contributors that it visits first, and succeeds if it is clean. -/
theorem Walk.settles
    {within : ContextCall → Prop}
    {shapeOf : ContributorId → Shape}
    (fixed : ∀ contributor ∈ contributors, contributor.MakesCalls owner)
    (closed : Closed contributors owner within)
    (oneShape :
      ∀ shape place, within (.add (.contributor shape place)) → shape = shapeOf place)
    (walk : Walk contributors context errand moments after result)
    (sameOwner : context.owner = owner)
    (start : errand.Within within) :
    SettlesNew contributors owner shapeOf context after ∧
      errand.Succeeds contributors owner after result := by
  induction walk with
  | @node context declaration node isNode =>
      refine ⟨settlesNew_of_visited_eq (Context.record_visited context node), fun _ => ⟨rfl, ?_⟩⟩
      exact Context.hasAdded_record isNode
  | foreign =>
      exact ⟨settlesNew_of_visited_eq rfl, fun clean => (clean _ .refl).elim⟩
  | @known context shape place known =>
      refine ⟨settlesNew_of_visited_eq rfl, fun _ => ⟨rfl, ?_, ?_⟩⟩
      · intro node isNode
        cases isNode
      · rintro other ⟨⟩ present
        rcases known with visited | absent
        · exact (context.hasVisited_iff place).mp visited
        · exact (Nat.not_lt.mpr absent present).elim
  | @first context after shape place contributor _ outcome fresh present visit visitIH =>
      subst sameOwner
      rcases visitIH rfl (fun call mentioned => closed _ _ start (.visit present mentioned)) with
        ⟨settles, succeeds⟩
      have visited := succeeds.settled (fixed contributor (List.mem_of_getElem? present)) present
      constructor
      · intro other isVisited new clean
        by_cases same : other = place
        · subst same
          rw [← oneShape shape other start] at clean ⊢
          exact (visited clean).2
        · refine settles other isVisited ?_ clean
          simp [new, same]
      · intro clean
        refine ⟨(visited clean).1, ?_, ?_⟩
        · intro node isNode
          cases isNode
        · rintro other ⟨⟩ -
          exact visit.grows.visited.subset (by simp)
  | ignored =>
      exact ⟨settlesNew_of_visited_eq rfl, fun _ => ⟨rfl, fun supported => nomatch supported⟩⟩
  | supported supported _ walkIH =>
      have prompts : Prompts contributors owner _ _ := .supported supported
      rcases walkIH sameOwner (closed _ _ start prompts) with ⟨settles, succeeds⟩
      refine ⟨settles, fun clean => ?_⟩
      have added := succeeds (clean.of_reaches (.single prompts))
      exact ⟨added.1, fun _ => added.2⟩
  | failure => exact ⟨settlesNew_of_visited_eq rfl, fun _ => ⟨rfl, trivial⟩⟩
  | finish =>
      refine ⟨settlesNew_of_visited_eq rfl, ?_⟩
      intro persistent calls made _
      cases calls with
      | nil => exact ⟨rfl, by simp⟩
      | cons call calls => cases call <;> cases made
  | raise =>
      refine ⟨settlesNew_of_visited_eq rfl, ?_⟩
      intro persistent calls made _
      cases calls with
      | nil => cases made
      | cons call calls => cases call <;> cases made
  | add head tail headIH tailIH =>
      rcases headIH sameOwner (start _ (Or.inl rfl)) with ⟨headSettles, headSucceeds⟩
      rcases tailIH (head.owner.trans sameOwner)
          (fun call mentioned => start call (Or.inr ⟨_, mentioned⟩)) with
        ⟨tailSettles, tailSucceeds⟩
      refine ⟨headSettles.trans tailSettles tail.grows, ?_⟩
      intro persistent calls made clean
      cases calls with
      | nil => cases made
      | cons call calls =>
          cases call <;> cases made
          exact headSucceeds.cons tail.grows tailSucceeds rfl clean
  | maybeAdd head tail headIH tailIH =>
      rcases headIH sameOwner (start _ (Or.inl rfl)) with ⟨headSettles, headSucceeds⟩
      rcases tailIH (head.owner.trans sameOwner)
          (fun call mentioned => start call (Or.inr ⟨_, mentioned⟩)) with
        ⟨tailSettles, tailSucceeds⟩
      refine ⟨headSettles.trans tailSettles tail.grows, ?_⟩
      intro persistent calls made clean
      cases calls with
      | nil => cases made
      | cons call calls =>
          cases call <;> cases made
          exact headSucceeds.cons tail.grows tailSucceeds rfl clean
  | fail tail tailIH =>
      rcases tailIH sameOwner (fun call mentioned => start call (Or.inr mentioned)) with
        ⟨settles, succeeds⟩
      refine ⟨settles, ?_⟩
      intro persistent calls made clean
      cases calls with
      | nil => cases made
      | cons call calls =>
          cases call <;> cases made
          rw [List.forall_mem_cons] at clean
          rcases succeeds persistent calls rfl clean.2 with ⟨succeeded, handled⟩
          exact ⟨succeeded, List.forall_mem_cons.mpr ⟨trivial, handled⟩⟩
  | declare _ tailIH =>
      rcases tailIH sameOwner start with ⟨settles, _⟩
      refine ⟨settles, ?_⟩
      intro persistent calls made _
      cases calls with
      | nil => cases made
      | cons call calls => cases call <;> cases made

/-! ## Calls one after the other -/

namespace Context

theorem performAll_owner (context : Context) (calls : List ContextCall) :
    (context.performAll contributors calls).owner = context.owner := by
  induction calls generalizing context with
  | nil => rfl
  | cons call calls ih =>
      rcases walk_perform contributors context call with ⟨moments, walk⟩
      exact (ih _).trans walk.owner

theorem grows_performAll (context : Context) (calls : List ContextCall) :
    Grows context (context.performAll contributors calls) := by
  induction calls generalizing context with
  | nil => exact ⟨List.prefix_rfl, List.prefix_rfl, List.prefix_rfl⟩
  | cons call calls ih =>
      rcases walk_perform contributors context call with ⟨moments, walk⟩
      exact walk.grows.trans (ih _)

/-- Calls of a closed set record only nodes added by calls of this set. -/
theorem mem_nodes_performAll
    {within : ContextCall → Prop}
    (closed : Closed contributors owner within)
    (context : Context)
    (sameOwner : context.owner = owner)
    (calls : List ContextCall)
    (start : ∀ call ∈ calls, within call) :
    ∀ node ∈ (context.performAll contributors calls).nodes,
      node ∈ context.nodes ∨
        ∃ declaration, within (.add declaration) ∧ declaration.node? = some node := by
  induction calls generalizing context with
  | nil => exact fun _ => Or.inl
  | cons call calls ih =>
      intro node member
      rw [List.forall_mem_cons] at start
      rcases walk_perform contributors context call with ⟨moments, walk⟩
      rcases ih _ (walk.owner.trans sameOwner) start.2 node member with recorded | added
      · exact walk.mem_nodes closed sameOwner start.1 node recorded
      · exact Or.inr added

/-- After calls of a closed set in which each contributor has one shape, the clean contributors that
they visited are settled. -/
theorem settlesNew_performAll
    {within : ContextCall → Prop}
    {shapeOf : ContributorId → Shape}
    (fixed : ∀ contributor ∈ contributors, contributor.MakesCalls owner)
    (closed : Closed contributors owner within)
    (oneShape :
      ∀ shape place, within (.add (.contributor shape place)) → shape = shapeOf place)
    (context : Context)
    (sameOwner : context.owner = owner)
    (calls : List ContextCall)
    (start : ∀ call ∈ calls, within call) :
    SettlesNew contributors owner shapeOf context (context.performAll contributors calls) := by
  induction calls generalizing context with
  | nil => exact settlesNew_of_visited_eq rfl
  | cons call calls ih =>
      rw [List.forall_mem_cons] at start
      rcases walk_perform contributors context call with ⟨moments, walk⟩
      have first := (walk.settles fixed closed oneShape sameOwner start.1).1
      exact first.trans (ih _ (walk.owner.trans sameOwner) start.2) (grows_performAll _ calls)

/-- If every clean contributor visited is settled, everything that a clean call leads to is handled
once the call is. -/
theorem Handled.of_reaches
    {within : ContextCall → Prop}
    {shapeOf : ContributorId → Shape}
    {call other : ContextCall}
    (closed : Closed contributors owner within)
    (oneShape :
      ∀ shape place, within (.add (.contributor shape place)) → shape = shapeOf place)
    (settled :
      ∀ place ∈ context.visited,
        Clean contributors owner (.add (.contributor (shapeOf place) place)) →
          context.Settled contributors owner (shapeOf place) place)
    (clean : call.Clean contributors owner)
    (start : within call)
    (handled : context.Handled contributors call)
    (reaches : call.Reaches contributors owner other) :
    context.Handled contributors other := by
  induction reaches with
  | refl => exact handled
  | @tail middle other reaches prompts ih =>
      cases prompts with
      | supported supported => exact ih supported
      | @visit shape place contributor _ present mentioned =>
          have sameShape := oneShape shape place (closed.of_reaches reaches start)
          have visited := ih.2 place rfl (List.getElem?_eq_some_iff.mp present).1
          subst sameShape
          exact settled place visited (clean.of_reaches reaches) contributor present other mentioned

/-- Every node recorded is reachable from one of the calls made. -/
theorem exists_reachesNode
    (contributors : Contributors)
    (owner : Option Task)
    (calls : List ContextCall) :
    ∀ node ∈ ((Context.fresh owner).performAll contributors calls).nodes,
      ∃ call ∈ calls, call.ReachesNode contributors owner node := by
  intro node member
  rcases mem_nodes_performAll (closed_reachedFrom contributors owner calls) (.fresh owner) rfl
      calls (reachedFrom_of_mem contributors owner calls) node member with
    old | ⟨declaration, ⟨call, inCalls, reaches⟩, isNode⟩
  · cases old
  · exact ⟨call, inCalls, declaration, reaches, isNode⟩

/-- A clean call succeeds, and everything it leads to is handled in the end, whatever has become of
the calls before and after it. -/
theorem clean_call
    {earlier later : List ContextCall}
    {call : ContextCall}
    {shapeOf : ContributorId → Shape}
    (fixed : ∀ contributor ∈ contributors, contributor.MakesCalls owner)
    (oneShape : OneShape contributors owner (earlier ++ call :: later) shapeOf)
    (clean : call.Clean contributors owner) :
    (((Context.fresh owner).performAll contributors earlier).perform contributors call).2 =
        .ok () ∧
      ∀ other, call.Reaches contributors owner other →
        ((Context.fresh owner).performAll contributors (earlier ++ call :: later)).Handled
          contributors other := by
  let calls := earlier ++ call :: later
  have closed := closed_reachedFrom contributors owner calls
  have start := reachedFrom_of_mem contributors owner calls
  have inCalls : call ∈ calls := by simp [calls]
  let before := (Context.fresh owner).performAll contributors earlier
  have sameOwner : before.owner = owner := performAll_owner _ earlier
  rcases walk_perform contributors before call with ⟨moments, walk⟩
  rcases (walk.settles fixed closed oneShape sameOwner (start call inCalls)).2 clean with
    ⟨succeeded, handled⟩
  refine ⟨succeeded, fun other reaches => ?_⟩
  have settled := settlesNew_performAll fixed closed oneShape (.fresh owner) rfl calls start
  rw [performAll_append, performAll_cons] at settled ⊢
  exact Handled.of_reaches closed oneShape
    (fun place visited => settled place visited List.not_mem_nil) clean (start call inCalls)
    ((grows_performAll _ later).handled handled) reaches

end Context

/-- True if no two nodes reachable from the calls have the same key. -/
def KeysIdentify
    (contributors : Contributors)
    (owner : Option Task)
    (calls : List ContextCall) :
    Prop :=
  ∀ first ∈ calls, ∀ second ∈ calls, ∀ node other,
    first.ReachesNode contributors owner node → second.ReachesNode contributors owner other →
      node.key = other.key → node = other

/-- Of contributors that make fixed lists of calls and have one shape each, whatever calls are made
on a fresh context and whichever of them fail: every node recorded is reachable from a call; and a
clean call succeeds, and from then on everything reachable from it is recorded. -/
theorem closure_and_containment
    (contributors : Contributors)
    (owner : Option Task)
    (calls : List ContextCall)
    (shapeOf : ContributorId → Shape)
    (fixed : ∀ contributor ∈ contributors, contributor.MakesCalls owner)
    (oneShape : OneShape contributors owner calls shapeOf) :
    (∀ node ∈ ((Context.fresh owner).performAll contributors calls).nodes,
      ∃ call ∈ calls, call.ReachesNode contributors owner node) ∧
    ∀ earlier call later,
      calls = earlier ++ call :: later → call.Clean contributors owner →
        (((Context.fresh owner).performAll contributors earlier).perform contributors call).2 =
            .ok () ∧
        ∀ since, since <+: later →
          ∀ node, call.ReachesNode contributors owner node →
            let context := (Context.fresh owner).performAll contributors (earlier ++ call :: since)
            (∃ recorded ∈ context.nodes, recorded.key = node.key) ∧
              (KeysIdentify contributors owner calls → node ∈ context.nodes) := by
  refine ⟨Context.exists_reachesNode contributors owner calls, ?_⟩
  rintro earlier call later rfl clean
  refine ⟨(Context.clean_call fixed oneShape clean).1, ?_⟩
  rintro since ⟨rest, rfl⟩ node ⟨declaration, reaches, isNode⟩ context
  have among : earlier ++ call :: since ⊆ earlier ++ call :: (since ++ rest) := by
    rw [← List.cons_append, ← List.append_assoc]
    exact List.subset_append_left _ _
  have handled := (Context.clean_call fixed (oneShape.mono among) clean).2 _ reaches
  have consistent : context.Consistent :=
    (Context.consistent_fresh owner).performAll contributors _
  have recorded := (consistent.contains_iff node.key).mp (handled.1 node isNode)
  refine ⟨recorded, fun keysIdentify => ?_⟩
  rcases recorded with ⟨other, member, sameKey⟩
  rcases Context.exists_reachesNode contributors owner _ other member with
    ⟨first, inCalls, reachesOther⟩
  rw [← keysIdentify first (among inCalls) call (by simp) other node reachesOther
    ⟨declaration, reaches, isNode⟩ sameKey]
  exact member

/-! ## A clean cycle beside one that fails -/

namespace TwoCycles

/-- A value that is no dependency. -/
def seven : ForeignValue := ⟨"u8", "7", .null⟩

/-- A work action. -/
def cleaning : WorkAction := ⟨⟨1⟩, .finalize, "clean"⟩

/-- A contributor that adds itself and then a value that is no dependency. -/
def endless : Contributor := .dependencySet [.contributor .container 0, .other seven]

/-- A contributor that adds another one and a work action. -/
def cyclic : Contributor := .dependencySet [.contributor .buildable 2, .work cleaning]

/-- A contributor that adds the one that adds it. -/
def backward : Contributor := .staticBuildable (.contributor .container 1)

/-- Two cycles of contributors, of which the second is clean. -/
def twoCycles : Contributors := [endless, cyclic, backward]

/-- The shapes of the contributors in the two cycles. -/
def shapeInCycles (place : ContributorId) : Shape := if place = 2 then .buildable else .container

/-- The calls that lead into the two cycles. -/
def callsIntoCycles : List ContextCall :=
  [.add (.contributor .container 0), .maybeAdd (.contributor .container 1)]

/-- What the contributors in the two cycles mention under their shapes. -/
theorem mentions_twoCycles
    {place : ContributorId}
    {contributor : Contributor}
    {call : ContextCall}
    (present : twoCycles[place]? = some contributor)
    (mentioned : (contributor.performance none (shapeInCycles place)).Mentions call) :
    (place = 0 ∧
        (call = .add (.contributor .container 0) ∨ call = .add (.other seven))) ∨
      (place = 1 ∧
        (call = .add (.contributor .buildable 2) ∨ call = .add (.work cleaning))) ∨
      (place = 2 ∧ call = .add (.contributor .container 1)) := by
  have performs :
      (place = 0 ∧ contributor = endless) ∨ (place = 1 ∧ contributor = cyclic) ∨
        (place = 2 ∧ contributor = backward) := by
    rcases place with _ | _ | _ | place <;> simp [twoCycles, eq_comm] at present <;>
      simp [present]
  rcases performs with ⟨rfl, rfl⟩ | ⟨rfl, rfl⟩ | ⟨rfl, rfl⟩
  · rw [show endless.performance none (shapeInCycles 0) = .addAll _ from rfl,
      Visit.addAll_eq_ofCalls, Visit.mentions_ofCalls] at mentioned
    exact Or.inl ⟨rfl, by simpa using mentioned⟩
  · rw [show cyclic.performance none (shapeInCycles 1) = .addAll _ from rfl,
      Visit.addAll_eq_ofCalls, Visit.mentions_ofCalls] at mentioned
    exact Or.inr (Or.inl ⟨rfl, by simpa using mentioned⟩)
  · rw [show backward.performance none (shapeInCycles 2) = .addAll [_] from rfl,
      Visit.addAll_eq_ofCalls, Visit.mentions_ofCalls] at mentioned
    exact Or.inr (Or.inr ⟨rfl, by simpa using mentioned⟩)

theorem makesCalls_twoCycles : ∀ contributor ∈ twoCycles, contributor.MakesCalls none := by
  simp only [twoCycles, List.forall_mem_cons]
  exact ⟨⟨false, _, Visit.addAll_eq_ofCalls _⟩, ⟨false, _, Visit.addAll_eq_ofCalls _⟩,
    ⟨false, [], rfl⟩, by simp⟩

theorem oneShape_twoCycles : OneShape twoCycles none callsIntoCycles shapeInCycles := by
  let within (call : ContextCall) : Prop :=
    ∀ shape place,
      call.declaration? = some (.contributor shape place) → shape = shapeInCycles place
  have closed : Closed twoCycles none within := by
    intro call other member prompts
    cases prompts with
    | supported => exact member
    | visit present mentioned =>
        rw [member _ _ rfl] at mentioned
        rcases mentions_twoCycles present mentioned with
          ⟨-, rfl | rfl⟩ | ⟨-, rfl | rfl⟩ | ⟨-, rfl⟩ <;>
          rintro shape place ⟨⟩ <;> rfl
  rintro shape place ⟨call, member, reaches⟩
  refine closed.of_reaches reaches ?_ shape place rfl
  rcases List.mem_pair.mp member with rfl | rfl <;> rintro shape place ⟨⟩ <;> rfl

theorem clean_twoCycles : Clean twoCycles none (.maybeAdd (.contributor .container 1)) := by
  let within (call : ContextCall) : Prop :=
    call = .maybeAdd (.contributor .container 1) ∨ call = .add (.contributor .container 1) ∨
      call = .add (.contributor .buildable 2) ∨ call = .add (.work cleaning)
  have closed : Closed twoCycles none within := by
    rintro call other (rfl | rfl | rfl | rfl) prompts
    · cases prompts
      exact Or.inr (Or.inl rfl)
    · cases prompts with
      | visit present mentioned =>
          rcases mentions_twoCycles present mentioned with
            ⟨⟨⟩, -⟩ | ⟨-, rfl | rfl⟩ | ⟨⟨⟩, -⟩
          · exact Or.inr (Or.inr (Or.inl rfl))
          · exact Or.inr (Or.inr (Or.inr rfl))
    · cases prompts with
      | visit present mentioned =>
          rcases mentions_twoCycles present mentioned with
            ⟨⟨⟩, -⟩ | ⟨⟨⟩, -⟩ | ⟨-, rfl⟩
          exact Or.inr (Or.inl rfl)
    · cases prompts
  intro value reaches
  rcases closed.of_reaches reaches (Or.inl rfl) with made | made | made | made <;> cases made

/-- The first of two cycles fails; the work action of the second is recorded all the same. -/
theorem second_cycle_recorded :
    (∀ contributor ∈ twoCycles, contributor.MakesCalls none) ∧
      OneShape twoCycles none callsIntoCycles shapeInCycles ∧
      ((Context.fresh none).perform twoCycles (.add (.contributor .container 0))).2 =
        .error (seven.unsupported none) ∧
      ∃ recorded ∈ ((Context.fresh none).performAll twoCycles callsIntoCycles).nodes,
        recorded.key = .work cleaning.identity := by
  refine ⟨makesCalls_twoCycles, oneShape_twoCycles, ?_, ?_⟩
  · rcases Context.walk_perform twoCycles (.fresh none) (.add (.contributor .container 0)) with
      ⟨moments, walk⟩
    exact (walk.deterministic (.first rfl rfl (.add (.known (Or.inl rfl))
      (.add .foreign .raise)))).2.2
  · have contained :=
      (closure_and_containment twoCycles none callsIntoCycles shapeInCycles makesCalls_twoCycles
        oneShape_twoCycles).2 [.add (.contributor .container 0)]
        (.maybeAdd (.contributor .container 1)) [] rfl clean_twoCycles
    have reaches :
        ContextCall.ReachesNode twoCycles none (.maybeAdd (.contributor .container 1))
          (.work cleaning) := by
      refine ⟨.work cleaning, .head (.supported rfl) (.single (.visit rfl ?_)), rfl⟩
      exact Or.inr ⟨.ok (), Or.inl rfl⟩
    exact (contained.2 [] List.prefix_rfl _ reaches).1

end TwoCycles

end TaskDispatch
