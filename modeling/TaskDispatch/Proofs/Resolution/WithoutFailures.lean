import TaskDispatch.Proofs.Resolution.Failures

/-!
# Walks with and without failures

Failures are harmless: they change neither the nodes that a context discovers nor how any addition
is answered.  To say so, a failing contributor is replaced by one that contributes nothing, and
reports of failures are left out.

Whoever uses a context makes calls on it, and may look at what comes of each.  So the use of a
context is a `Visit` too, one that belongs to no contributor, and `Context.use` runs it.

The main statement, `Context.use_failures`, also says which failures there are.
-/

namespace TaskDispatch

/-! ## Leaving failures out -/

/-- A visit that makes the same calls, but records no failure. -/
def Visit.withoutFailures : Visit → Visit
  | .finish => .finish
  | .raise error => .raise error
  | .add declaration next => .add declaration fun result => (next result).withoutFailures
  | .maybeAdd declaration next => .maybeAdd declaration fun result => (next result).withoutFailures
  | .fail _ next => next.withoutFailures
  | .declare task declaration next => .declare task declaration next.withoutFailures

/-- The same errand without failures. -/
def Errand.withoutFailures : Errand → Errand
  | .call (.fail _) => .follow .finish
  | .call other => .call other
  | .follow visit => .follow visit.withoutFailures

namespace Contributor

/-- The contributor at a place that contributes nothing, and fails under no shape. -/
def nothing (place : ContributorId) : Contributor where
  displayName := Shape.defaultName
  tasks _ := .ok []
  build := .ok (.contributor .tasks place)
  visit _ := .finish

/-- A contributor that contributes nothing where the other fails: no tasks, or the contributor of
nothing at a place. -/
def withoutFailures (place : ContributorId) (contributor : Contributor) : Contributor where
  displayName := contributor.displayName
  tasks owner :=
    match contributor.tasks owner with
    | .ok members => .ok members
    | .error _ => .ok []
  build :=
    match contributor.build with
    | .ok declaration => .ok declaration
    | .error _ => .ok (.contributor .tasks place)
  visit owner := (contributor.visit owner).withoutFailures

end Contributor

namespace Contributors

/-- A table in which failing contributors have been replaced by ones that contribute nothing. -/
def withoutFailures (contributors : Contributors) : Contributors :=
  contributors.map (Contributor.withoutFailures contributors.length) ++
    [.nothing contributors.length]

theorem getElem?_withoutFailures
    {contributors : Contributors}
    {place : ContributorId}
    {contributor : Contributor}
    (present : contributors[place]? = some contributor) :
    contributors.withoutFailures[place]? =
      some (contributor.withoutFailures contributors.length) := by
  have inTable := (List.getElem?_eq_some_iff.mp present).1
  unfold withoutFailures
  rw [List.getElem?_append_left (by simpa using inTable), List.getElem?_map, present]
  rfl

theorem length_withoutFailures (contributors : Contributors) :
    contributors.withoutFailures.length = contributors.length + 1 := by
  simp [withoutFailures]

theorem getElem?_nothing (contributors : Contributors) :
    contributors.withoutFailures[contributors.length]? = some (.nothing contributors.length) := by
  simp [withoutFailures]

end Contributors

open Incident

/-- True of lists that hold the same contributors of a table of this size. -/
def SameWithin (size : Nat) (places others : List ContributorId) : Prop :=
  ∀ place < size, place ∈ others ↔ place ∈ places

theorem SameWithin.concat
    {size : Nat}
    {places others : List ContributorId}
    (same : SameWithin size places others)
    (place : ContributorId) :
    SameWithin size (places ++ [place]) (others ++ [place]) := by
  intro other lower
  rw [List.mem_append, List.mem_append, same other lower]

/-- True of a story that meets the same nodes and gives the same answers as another, without a
failure, and visits the same contributors of a table of this size. -/
structure Calms
    (size : Nat)
    (incidents : List Incident)
    (after : List ContributorId)
    (calm : List Incident)
    (after' : List ContributorId) :
    Prop where
  nodes : nodes calm = nodes incidents
  answers : answers calm = answers incidents
  calm : ∀ incident ∈ calm, incident.cause? = none
  visited : SameWithin size after after'

namespace Calms

variable
  {size : Nat}
  {incidents later calm others : List Incident}
  {middle after middle' after' : List ContributorId}

theorem of_same (same : SameWithin size after after') : Calms size [] after [] after' :=
  ⟨rfl, rfl, fun _ none => (List.not_mem_nil none).elim, same⟩

theorem visit
    (calms : Calms size incidents after calm after')
    (place : ContributorId)
    (name : String) :
    Calms size (.began place name :: (incidents ++ [.ended place])) after
      (.began place name :: (calm ++ [.ended place])) after' := by
  refine ⟨?_, ?_, ?_, calms.visited⟩
  · simp [node?, calms.nodes]
  · simp [answer?, calms.answers]
  · simpa [cause?, or_imp, forall_and] using calms.calm

theorem answered
    (head : Calms size incidents middle calm middle')
    (tail : Calms size later after others after')
    (outcome : AddResult) :
    Calms size (incidents ++ .answered outcome :: later) after
      (calm ++ .answered outcome :: others) after' := by
  refine ⟨?_, ?_, ?_, tail.visited⟩
  · simp [head.nodes, tail.nodes]
  · simp [head.answers, tail.answers]
  · rw [List.forall_mem_append, List.forall_mem_cons]
    exact ⟨head.calm, rfl, tail.calm⟩

/-- A failure may be left out. -/
theorem fail
    (calms : Calms size incidents after calm after')
    {incident : Incident}
    {cause : Cause}
    (failure : incident.cause? = some cause) :
    Calms size (incident :: incidents) after calm after' := by
  cases incident with
  | callFailed => exact ⟨calms.nodes, calms.answers, calms.calm, calms.visited⟩
  | reported => exact ⟨calms.nodes, calms.answers, calms.calm, calms.visited⟩
  | began => cases failure
  | ended => cases failure
  | met => cases failure
  | answered => cases failure

end Calms

namespace Chronicle

variable
  {contributors : Contributors}
  {owner : Option Task}
  {visited after : List ContributorId}
  {errand : Errand}
  {incidents : List Incident}
  {result : AddResult}

/-- What is beyond the table contributes nothing, nor does what takes the place of a failing
contributor. -/
theorem exists_nothing
    (owner : Option Task)
    (shape : Shape)
    {place : ContributorId}
    (beyond : contributors.length ≤ place)
    {visited' : List ContributorId}
    (same : SameWithin contributors.length visited visited') :
    ∃ calm after,
      Chronicle contributors.withoutFailures owner visited'
          (.call (.add (.contributor shape place))) calm after (.ok ()) ∧
        Calms contributors.length [] visited calm after := by
  by_cases known : place ∈ visited' ∨ contributors.withoutFailures.length ≤ place
  · exact ⟨[], visited', .known known, .of_same same⟩
  · rw [not_or, Nat.not_le] at known
    rcases known with ⟨fresh, inTable⟩
    rw [contributors.length_withoutFailures] at inTable
    have last : place = contributors.length := Nat.le_antisymm (Nat.lt_succ_iff.mp inTable) beyond
    subst last
    have present := contributors.getElem?_nothing
    have again : contributors.length ∈ visited' ++ [contributors.length] := by simp
    have others : SameWithin contributors.length visited (visited' ++ [contributors.length]) := by
      intro other lower
      rw [← same other lower]
      simp [Nat.ne_of_lt lower]
    have empty (name : String) :
        Calms contributors.length [] visited
          [.began contributors.length name, .ended contributors.length]
          (visited' ++ [contributors.length]) :=
      ⟨rfl, rfl, by simp [cause?], others⟩
    cases shape with
    | tasks => exact ⟨_, _, .tasks fresh present rfl, empty _⟩
    | buildable => exact ⟨_, _, .buildable fresh present rfl (.known (.inl again)), empty _⟩
    | container => exact ⟨_, _, .visit (.inl rfl) fresh present .finish, empty _⟩
    | transformation => exact ⟨_, _, .visit (.inr rfl) fresh present .finish, empty _⟩

/-- The story of a walk is that of the walk without failures, but for the failures. -/
theorem exists_calm
    (chronicle : Chronicle contributors owner visited errand incidents after result)
    {visited' : List ContributorId}
    (same : SameWithin contributors.length visited visited') :
    ∃ calm after',
      Chronicle contributors.withoutFailures owner visited' errand.withoutFailures calm after'
          result ∧
        Calms contributors.length incidents after calm after' := by
  have unseen {earlier earlier' : List ContributorId} {place : ContributorId}
      {contributor : Contributor}
      (same : SameWithin contributors.length earlier earlier')
      (fresh : place ∉ earlier)
      (present : contributors[place]? = some contributor) :
      place ∉ earlier' := by
    rw [same place (List.getElem?_eq_some_iff.mp present).1]
    exact fresh
  induction chronicle generalizing visited' with
  | @node _ _ node isNode =>
      exact ⟨[.met node], visited', .node isNode, rfl, rfl, by simp [cause?], same⟩
  | foreign => exact ⟨[], visited', .foreign, .of_same same⟩
  | @known visited shape place known =>
      by_cases beyond : contributors.length ≤ place
      · exact exists_nothing owner shape beyond same
      · have seen := known.resolve_right beyond
        rw [← same place (Nat.lt_of_not_le beyond)] at seen
        exact ⟨[], visited', .known (.inl seen), .of_same same⟩
  | @tasks visited place contributor members fresh present listed =>
      have replaced := Contributors.getElem?_withoutFailures present
      have same' : (contributor.withoutFailures contributors.length).tasks owner = .ok members := by
        simp only [Contributor.withoutFailures, listed]
      refine ⟨_, _, .tasks (unseen same fresh present) replaced same', ?_⟩
      exact Calms.visit ⟨rfl, rfl, by simp [cause?], same.concat place⟩ _ _
  | @tasksFailed visited place contributor cause fresh present failed =>
      have replaced := Contributors.getElem?_withoutFailures present
      have empty : (contributor.withoutFailures contributors.length).tasks owner = .ok [] := by
        simp only [Contributor.withoutFailures, failed]
      refine ⟨_, _, .tasks (unseen same fresh present) replaced empty, ?_⟩
      exact ((Calms.of_same (same.concat place)).fail rfl).visit _ _
  | @buildable visited after place contributor declaration incidents result fresh present built _
      ih =>
      have replaced := Contributors.getElem?_withoutFailures present
      have built' : (contributor.withoutFailures contributors.length).build = .ok declaration := by
        simp only [Contributor.withoutFailures, built]
      rcases ih (same.concat place) with ⟨calm, after', story, calms⟩
      exact ⟨_, _, .buildable (unseen same fresh present) replaced built' story, calms.visit _ _⟩
  | @buildFailed visited place contributor cause fresh present failed =>
      have replaced := Contributors.getElem?_withoutFailures present
      have builtNothing :
          (contributor.withoutFailures contributors.length).build =
            .ok (.contributor .tasks contributors.length) := by
        simp only [Contributor.withoutFailures, failed]
      rcases exists_nothing owner .tasks (Nat.le_refl contributors.length) (same.concat place) with
        ⟨calm, after', story, calms⟩
      refine ⟨_, _, .buildable (unseen same fresh present) replaced builtNothing story, ?_⟩
      exact (calms.fail rfl).visit _ _
  | @visit visited after shape place contributor incidents result calls fresh present _ ih =>
      have replaced := Contributors.getElem?_withoutFailures present
      rcases ih (same.concat place) with ⟨calm, after', story, calms⟩
      exact ⟨_, _, .visit calls (unseen same fresh present) replaced story, calms.visit _ _⟩
  | ignored => exact ⟨[], visited', .ignored, .of_same same⟩
  | supported supported _ ih =>
      rcases ih same with ⟨calm, after', story, calms⟩
      exact ⟨calm, after', .supported supported story, calms⟩
  | failure => exact ⟨[], visited', .finish, (Calms.of_same same).fail rfl⟩
  | finish => exact ⟨[], visited', .finish, .of_same same⟩
  | raise => exact ⟨[], visited', .raise, .of_same same⟩
  | add _ _ headIH tailIH =>
      rcases headIH same with ⟨first, middle', head, headCalms⟩
      rcases tailIH headCalms.visited with ⟨others, after', tail, tailCalms⟩
      exact ⟨_, after', .add head tail, headCalms.answered tailCalms _⟩
  | maybeAdd _ _ headIH tailIH =>
      rcases headIH same with ⟨first, middle', head, headCalms⟩
      rcases tailIH headCalms.visited with ⟨others, after', tail, tailCalms⟩
      exact ⟨_, after', .maybeAdd head tail, headCalms.answered tailCalms _⟩
  | fail _ ih =>
      rcases ih same with ⟨calm, after', story, calms⟩
      exact ⟨calm, after', story, calms.fail rfl⟩
  | declare _ ih =>
      rcases ih same with ⟨calm, after', story, calms⟩
      exact ⟨calm, after', .declare story, calms⟩

end Chronicle

namespace Context

/-- Makes the calls of a program that uses the context. -/
def use (contributors : Contributors) (context : Context) (program : Visit) : Context × AddResult :=
  follow (expand contributors (contributors.length + 1)) context program

theorem hasWalk_use (contributors : Contributors) (context : Context) (program : Visit) :
    HasWalk contributors context (.follow program) (context.use contributors program) := by
  refine hasWalk_follow ?_ program context (unvisited_le_length contributors context)
  intro inner declaration few
  exact hasWalk_expand _ inner declaration (Nat.lt_succ_of_le few)

theorem exists_told_use (contributors : Contributors) (owner : Option Task) (program : Visit) :
    ∃ incidents,
      Told contributors [] (fresh owner) (.follow program) incidents
        ((fresh owner).use contributors program).1 ((fresh owner).use contributors program).2 := by
  rcases hasWalk_use contributors (fresh owner) program with ⟨moments, walk⟩
  exact walk.exists_told (Recalls.fresh owner) (consistent_fresh owner)

/-- Whatever a context is used for, its failures are those of the one story that belongs to this
use: each call of a task collection or buildable that failed, and each report, in the order of the
walk, under the name of the innermost visit in progress.  Without failing contributors and reports
the nodes are the same, and so is the answer to every addition. -/
theorem use_failures
    (contributors : Contributors)
    (owner : Option Task)
    (program : Visit) :
    let used := (fresh owner).use contributors program
    let calm := (fresh owner).use contributors.withoutFailures program.withoutFailures
    ∃ incidents,
      Chronicle contributors owner [] (.follow program) incidents used.1.visited used.2 ∧
        (∀ other visited result,
          Chronicle contributors owner [] (.follow program) other visited result →
            other = incidents) ∧
        used.1.failures = failuresAfter [] incidents ∧
        used.1.nodes = (Incident.nodes incidents).eraseDupsBy Node.sameKey ∧
        ∃ others,
          Chronicle contributors.withoutFailures owner [] (.follow program.withoutFailures) others
              calm.1.visited calm.2 ∧
            calm.1.nodes = used.1.nodes ∧
            answers others = answers incidents ∧
            calm.2 = used.2 ∧
            calm.1.failures = [] := by
  intro used calm
  rcases exists_told_use contributors owner program with ⟨incidents, told⟩
  rcases exists_told_use contributors.withoutFailures owner program.withoutFailures with
    ⟨others, toldCalm⟩
  rcases told.chronicle.exists_calm (fun _ _ => Iff.rfl) with ⟨story, after, chronicle, calms⟩
  rcases chronicle.deterministic toldCalm.chronicle with ⟨rfl, -, sameResult⟩
  have discovered : used.1.nodes = (Incident.nodes incidents).eraseDupsBy Node.sameKey := by
    rw [← Node.recordAll_nil]
    exact told.nodes
  refine ⟨incidents, told.chronicle, ?only, told.failures, discovered, story, toldCalm.chronicle,
    ?nodes, calms.answers, sameResult.symm, ?calm⟩
  case only =>
    intro other visited result another
    exact (another.deterministic told.chronicle).1
  case nodes =>
    rw [discovered, ← Node.recordAll_nil, ← calms.nodes]
    exact toldCalm.nodes
  case calm =>
    rw [← failuresAfter_eq_nil calms.calm []]
    exact toldCalm.failures

/-- A failure belongs to the innermost visit, also after visits in it have ended. -/
example :
    let broken := Contributor.failingTasks "broken" (.ofText "gone")
    let outer :=
      { Contributor.idle with
        displayName := fun _ => "outer"
        visit := fun _ => .add (.contributor .tasks 0) fun _ => .fail (.ofText "late") .finish }
    let program : Visit := .add (.contributor .container 1) fun _ => .fail (.ofText "last") .finish
    ((fresh none).use [broken, outer] program).1.failures =
      [⟨"broken", .ofText "gone"⟩, ⟨"outer", .ofText "late"⟩, ⟨topLevel, .ofText "last"⟩] := by
  decide

end Context

end TaskDispatch
