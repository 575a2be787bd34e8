import TaskDispatch.Proofs.Resolution.Closure

/-!
# What the answer of a call tells

A call is meant to fail exactly if it leads to a value that is no dependency, and to record
everything it leads to otherwise.  It does so as long as no call before it has failed.  A
contributor that was left half way because of an error is passed over when it is met again, like any
other that was visited before; so what its first visit would have added later is then neither
reported nor recorded.

Exactly said, the answer of a call is about what the call leads to *anew*, that is, without the
contributors that were visited before it.  That a failure is reached anew is a property of the walk
alone.  That a success has accepted everything reached anew needs the contributors that the walk
visits first: once the call has succeeded, each of them has had all its calls accepted.  The main
statement is `answer_of_call`.
-/

namespace TaskDispatch

open ContextCall

/-! ## Visits made of a list of calls, read backwards -/

namespace Visit

variable {persistent : Bool} {calls : List ContextCall} {failed : Option UnsupportedDependency}

theorem ofCalls_eq_add
    {declaration : Declaration}
    {next : AddResult → Visit}
    (made : ofCalls persistent calls failed = .add declaration next) :
    ∃ rest,
      calls = .add declaration :: rest ∧
        next = goOn persistent failed (ofCalls persistent rest) := by
  cases calls with
  | nil => cases failed <;> cases made
  | cons call rest =>
      cases call <;> cases made
      exact ⟨rest, rfl, rfl⟩

theorem ofCalls_eq_maybeAdd
    {declaration : Declaration}
    {next : AddResult → Visit}
    (made : ofCalls persistent calls failed = .maybeAdd declaration next) :
    ∃ rest,
      calls = .maybeAdd declaration :: rest ∧
        next = goOn persistent failed (ofCalls persistent rest) := by
  cases calls with
  | nil => cases failed <;> cases made
  | cons call rest =>
      cases call <;> cases made
      exact ⟨rest, rfl, rfl⟩

theorem ofCalls_eq_fail
    {cause : Cause}
    {next : Visit}
    (made : ofCalls persistent calls failed = .fail cause next) :
    ∃ rest, calls = .fail cause :: rest ∧ next = ofCalls persistent rest failed := by
  cases calls with
  | nil => cases failed <;> cases made
  | cons call rest =>
      cases call <;> cases made
      exact ⟨rest, rfl, rfl⟩

theorem ofCalls_ne_declare
    {task : Identity}
    {declaration : Declaration}
    {next : Visit} :
    ofCalls persistent calls failed ≠ .declare task declaration next := by
  intro made
  cases calls with
  | nil => cases failed <;> cases made
  | cons call rest => cases call <;> cases made

theorem ofCalls_eq_finish (made : ofCalls persistent calls failed = .finish) :
    calls = [] ∧ failed = none := by
  cases calls with
  | nil =>
      cases failed with
      | none => exact ⟨rfl, rfl⟩
      | some error => cases made
  | cons call rest => cases call <;> cases made

theorem ofCalls_eq_raise
    {error : UnsupportedDependency}
    (made : ofCalls persistent calls failed = .raise error) :
    calls = [] ∧ failed = some error := by
  cases calls with
  | nil =>
      cases failed with
      | none => cases made
      | some error =>
          cases made
          exact ⟨rfl, rfl⟩
  | cons call rest => cases call <;> cases made

/-- After an error a visit goes on as one that has failed. -/
theorem goOn_error
    (persistent : Bool)
    (calls : List ContextCall)
    (failed : Option UnsupportedDependency)
    (error : UnsupportedDependency) :
    ∃ rest first,
      goOn persistent failed (ofCalls persistent calls) (.error error) =
        ofCalls persistent rest (some first) := by
  cases persistent with
  | false => exact ⟨[], error, rfl⟩
  | true =>
      cases failed with
      | none => exact ⟨calls, error, rfl⟩
      | some first => exact ⟨calls, first, rfl⟩

end Visit

/-! ## What is reached anew -/

namespace ContextCall

/-- True of the addition of a contributor that has been visited. -/
def PassesOver (visited : List ContributorId) (call : ContextCall) : Prop :=
  ∃ shape place, call = .add (.contributor shape place) ∧ place ∈ visited

/-- True if a call may lead to the other without a contributor that has been visited. -/
def ReachesAnew
    (contributors : Contributors)
    (owner : Option Task)
    (visited : List ContributorId) :
    ContextCall → ContextCall → Prop :=
  Relation.ReflTransGen fun call other =>
    ¬ call.PassesOver visited ∧ Prompts contributors owner call other

/-- True if a call may lead to the addition of a task or a work action without a contributor that
has been visited. -/
def ReachesNodeAnew
    (contributors : Contributors)
    (owner : Option Task)
    (visited : List ContributorId)
    (call : ContextCall)
    (node : Node) :
    Prop :=
  ∃ declaration,
    call.ReachesAnew contributors owner visited (.add declaration) ∧ declaration.node? = some node

/-- True if no contributor that a call may lead to was visited before and leads to a value that is
no dependency. -/
def CleanBefore
    (contributors : Contributors)
    (owner : Option Task)
    (visited : List ContributorId)
    (call : ContextCall) :
    Prop :=
  ∀ shape place,
    call.Reaches contributors owner (.add (.contributor shape place)) → place ∈ visited →
      Clean contributors owner (.add (.contributor shape place))

section ReachesAnew

variable {contributors : Contributors} {owner : Option Task} {visited : List ContributorId}
  {call other : ContextCall}

theorem ReachesAnew.reaches (anew : call.ReachesAnew contributors owner visited other) :
    call.Reaches contributors owner other :=
  Relation.ReflTransGen.mono (fun _ _ step => step.2) _ _ anew

/-- Where nothing that was visited before leads to a value that is no dependency, such a value is
reached anew if it is reached at all. -/
theorem Reaches.anew
    {value : ForeignValue}
    (cleanBefore : call.CleanBefore contributors owner visited)
    (reaches : call.Reaches contributors owner (.add (.other value))) :
    call.ReachesAnew contributors owner visited (.add (.other value)) := by
  induction reaches using Relation.ReflTransGen.head_induction_on with
  | refl => exact .refl
  | @head first second prompts onward ih =>
      have notPassed : ¬ first.PassesOver visited := by
        rintro ⟨shape, place, rfl, seen⟩
        exact cleanBefore shape place .refl seen value (.head prompts onward)
      have cleanAfter : second.CleanBefore contributors owner visited :=
        fun shape place reached => cleanBefore shape place (.head prompts reached)
      exact .head ⟨notPassed, prompts⟩ (ih cleanAfter)

end ReachesAnew

end ContextCall

section Answers

variable {contributors : Contributors} {owner : Option Task} {context after : Context}
  {errand : Errand} {moments : List Moment} {result : AddResult}

/-! ## A failure has a reason that is reached anew -/

/-- True if an errand leads anew to a value that is no dependency. -/
def Errand.Faulty
    (contributors : Contributors)
    (owner : Option Task)
    (visited : List ContributorId) :
    Errand → Prop
  | .call made => ∃ value, made.ReachesAnew contributors owner visited (.add (.other value))
  | .follow visit =>
      ∀ persistent calls, visit = .ofCalls persistent calls none →
        ∃ call ∈ calls, ∃ value,
          call.ReachesAnew contributors owner visited (.add (.other value))

/-- The step of a visit from one call to the next, if one of the two has a reason to fail. -/
theorem Errand.Faulty.cons
    {visited : List ContributorId}
    {call : ContextCall}
    {next : AddResult → Visit}
    {outcome : AddResult}
    {persistent : Bool}
    {calls : List ContextCall}
    (head :
      ∀ error, outcome = .error error → Errand.Faulty contributors owner visited (.call call))
    (tail : Errand.Faulty contributors owner visited (.follow (next outcome)))
    (onward : next = Visit.goOn persistent none (.ofCalls persistent calls)) :
    ∃ other ∈ call :: calls, ∃ value,
      other.ReachesAnew contributors owner visited (.add (.other value)) := by
  cases outcome with
  | error error => exact ⟨call, List.mem_cons_self, head error rfl⟩
  | ok _ =>
      rcases tail persistent calls (by rw [onward]; rfl) with ⟨other, member, reaches⟩
      exact ⟨other, List.mem_cons_of_mem _ member, reaches⟩

/-- A walk that ends with an error leads anew to a value that is no dependency. -/
theorem Walk.faulty
    {visited : List ContributorId}
    (fixed : ∀ contributor ∈ contributors, contributor.MakesCalls owner)
    (walk : Walk contributors context errand moments after result)
    (sameOwner : context.owner = owner)
    (before : visited ⊆ context.visited)
    {error : UnsupportedDependency}
    (failed : result = .error error) :
    errand.Faulty contributors owner visited := by
  induction walk generalizing error with
  | node => cases failed
  | @foreign context value => exact ⟨value, .refl⟩
  | known => cases failed
  | @first context _ shape place contributor _ _ fresh present visit visitIH =>
      subst sameOwner
      rcases (fixed contributor (List.mem_of_getElem? present)).performance shape with
        ⟨persistent, calls, performs⟩
      have entered :
          visited ⊆ (context.enter shape place (contributor.displayName shape)).visited :=
        fun other seen => List.mem_append_left _ (before seen)
      rcases visitIH rfl entered failed persistent calls performs with
        ⟨call, member, value, reaches⟩
      have mentioned : (contributor.performance context.owner shape).Mentions call := by
        rw [performs, Visit.mentions_ofCalls]
        exact member
      have notPassed : ¬ (ContextCall.add (.contributor shape place)).PassesOver visited := by
        rintro ⟨_, _, ⟨⟩, seen⟩
        rw [(context.hasVisited_iff place).mpr (before seen)] at fresh
        cases fresh
      exact ⟨value, .head ⟨notPassed, .visit present mentioned⟩ reaches⟩
  | ignored => cases failed
  | @supported _ _ declaration _ _ supported _ walkIH =>
      rcases walkIH sameOwner before failed with ⟨value, reaches⟩
      have notPassed : ¬ (ContextCall.maybeAdd declaration).PassesOver visited := by
        rintro ⟨_, _, ⟨⟩, _⟩
      exact ⟨value, .head ⟨notPassed, .supported supported⟩ reaches⟩
  | failure => cases failed
  | finish => cases failed
  | raise =>
      intro persistent calls made
      cases (Visit.ofCalls_eq_raise made.symm).2
  | add head _ headIH tailIH =>
      intro persistent calls made
      rcases Visit.ofCalls_eq_add made.symm with ⟨rest, rfl, onward⟩
      have later := tailIH (head.owner.trans sameOwner)
        (fun other seen => head.grows.visited.subset (before seen)) failed
      exact later.cons (fun _ => headIH sameOwner before) onward
  | maybeAdd head _ headIH tailIH =>
      intro persistent calls made
      rcases Visit.ofCalls_eq_maybeAdd made.symm with ⟨rest, rfl, onward⟩
      have later := tailIH (head.owner.trans sameOwner)
        (fun other seen => head.grows.visited.subset (before seen)) failed
      exact later.cons (fun _ => headIH sameOwner before) onward
  | fail _ tailIH =>
      intro persistent calls made
      rcases Visit.ofCalls_eq_fail made.symm with ⟨rest, rfl, onward⟩
      rcases tailIH sameOwner before failed persistent rest onward with
        ⟨call, member, reaches⟩
      exact ⟨call, List.mem_cons_of_mem _ member, reaches⟩
  | declare =>
      intro persistent calls made
      exact absurd made.symm Visit.ofCalls_ne_declare

/-! ## A success has accepted what is reached anew -/

namespace Context

/-- True if a call has done what it is for, and is no addition of a value that is no dependency. -/
def Accepted (contributors : Contributors) (context : Context) (call : ContextCall) : Prop :=
  context.Handled contributors call ∧ ∀ value, call ≠ .add (.other value)

/-- True if every call of a contributor under a shape has been accepted. -/
def Completed
    (contributors : Contributors)
    (owner : Option Task)
    (context : Context)
    (shape : Shape)
    (place : ContributorId) :
    Prop :=
  ∀ contributor, contributors[place]? = some contributor →
    ∀ call, (contributor.performance owner shape).Mentions call →
      context.Accepted contributors call

end Context

theorem Grows.accepted
    {call : ContextCall}
    (grows : Grows context after)
    (accepted : context.Accepted contributors call) :
    after.Accepted contributors call :=
  ⟨grows.handled accepted.1, accepted.2⟩

/-- Every contributor that is visited in the second context but not in the first is completed in the
second. -/
def CompletesNew
    (contributors : Contributors)
    (owner : Option Task)
    (shapeOf : ContributorId → Shape)
    (context after : Context) :
    Prop :=
  ∀ place ∈ after.visited, place ∉ context.visited →
    after.Completed contributors owner (shapeOf place) place

theorem completesNew_of_visited_eq
    {shapeOf : ContributorId → Shape}
    (same : after.visited = context.visited) :
    CompletesNew contributors owner shapeOf context after := by
  intro place visited new
  rw [same] at visited
  exact absurd visited new

theorem CompletesNew.trans
    {shapeOf : ContributorId → Shape}
    {middle : Context}
    (first : CompletesNew contributors owner shapeOf context middle)
    (second : CompletesNew contributors owner shapeOf middle after)
    (grows : Grows middle after) :
    CompletesNew contributors owner shapeOf context after := by
  intro place visited new
  by_cases earlier : place ∈ middle.visited
  · intro contributor present call mentioned
    exact grows.accepted (first place earlier new contributor present call mentioned)
  · exact second place visited earlier

/-- What has become of an errand that has succeeded. -/
def Errand.Accepted
    (contributors : Contributors)
    (owner : Option Task)
    (shapeOf : ContributorId → Shape)
    (context after : Context) :
    Errand → Prop
  | .call made =>
      CompletesNew contributors owner shapeOf context after ∧ after.Accepted contributors made
  | .follow visit =>
      ∀ persistent calls failed, visit = .ofCalls persistent calls failed →
        failed = none ∧
          CompletesNew contributors owner shapeOf context after ∧
            ∀ call ∈ calls, after.Accepted contributors call

/-- The step of a visit from one call to the next; the call must have succeeded, because an error
would have been kept to the end. -/
theorem Errand.Accepted.cons
    {shapeOf : ContributorId → Shape}
    {middle : Context}
    {call : ContextCall}
    {next : AddResult → Visit}
    {outcome : AddResult}
    {persistent : Bool}
    {calls : List ContextCall}
    {failed : Option UnsupportedDependency}
    (grows : Grows middle after)
    (head :
      outcome = .ok () → Errand.Accepted contributors owner shapeOf context middle (.call call))
    (tail : Errand.Accepted contributors owner shapeOf middle after (.follow (next outcome)))
    (onward : next = Visit.goOn persistent failed (.ofCalls persistent calls)) :
    failed = none ∧
      CompletesNew contributors owner shapeOf context after ∧
        ∀ other ∈ call :: calls, after.Accepted contributors other := by
  subst onward
  cases outcome with
  | error error =>
      rcases Visit.goOn_error persistent calls failed error with ⟨rest, first, goesOn⟩
      cases (tail persistent rest (some first) goesOn).1
  | ok _ =>
      rcases head rfl with ⟨completesHead, acceptedHead⟩
      rcases tail persistent calls failed rfl with ⟨unfailed, completesTail, acceptedTail⟩
      have completes := completesHead.trans completesTail grows
      exact ⟨unfailed, completes,
        List.forall_mem_cons.mpr ⟨grows.accepted acceptedHead, acceptedTail⟩⟩

/-- A walk that succeeds has its errand accepted and completes the contributors that it visits
first. -/
theorem Walk.accepted
    {within : ContextCall → Prop}
    {shapeOf : ContributorId → Shape}
    (fixed : ∀ contributor ∈ contributors, contributor.MakesCalls owner)
    (closed : Closed contributors owner within)
    (oneShape :
      ∀ shape place, within (.add (.contributor shape place)) → shape = shapeOf place)
    (walk : Walk contributors context errand moments after result)
    (sameOwner : context.owner = owner)
    (start : errand.Within within)
    (succeeded : result = .ok ()) :
    errand.Accepted contributors owner shapeOf context after := by
  induction walk with
  | @node context declaration node isNode =>
      refine ⟨completesNew_of_visited_eq (Context.record_visited context node),
        Context.hasAdded_record isNode, ?_⟩
      rintro value ⟨⟩
      cases isNode
  | foreign => cases succeeded
  | @known context shape place known =>
      refine ⟨completesNew_of_visited_eq rfl, ⟨nofun, ?_⟩, nofun⟩
      rintro other ⟨⟩ present
      rcases known with visited | absent
      · exact (context.hasVisited_iff place).mp visited
      · exact absurd present (Nat.not_lt.mpr absent)
  | @first context after shape place contributor _ _ fresh present visit visitIH =>
      subst sameOwner
      rcases (fixed contributor (List.mem_of_getElem? present)).performance shape with
        ⟨persistent, calls, performs⟩
      have inside (call : ContextCall)
          (mentioned : (contributor.performance context.owner shape).Mentions call) :
          within call :=
        closed _ _ start (.visit present mentioned)
      rcases visitIH rfl inside succeeded persistent calls none performs with
        ⟨-, completes, accepted⟩
      refine ⟨?_, ⟨nofun, ?_⟩, nofun⟩
      · intro other isVisited new
        by_cases same : other = place
        · subst same
          rw [← oneShape shape other start]
          intro candidate isCandidate call mentioned
          cases present.symm.trans isCandidate
          rw [performs, Visit.mentions_ofCalls] at mentioned
          exact accepted call mentioned
        · refine completes other isVisited ?_
          simp [new, same]
      · rintro other ⟨⟩ -
        exact visit.grows.visited.subset (by simp)
  | ignored => exact ⟨completesNew_of_visited_eq rfl, nofun, nofun⟩
  | supported supported _ walkIH =>
      have prompts : Prompts contributors owner _ _ := .supported supported
      rcases walkIH sameOwner (closed _ _ start prompts) succeeded with ⟨completes, accepted⟩
      exact ⟨completes, fun _ => accepted.1, nofun⟩
  | failure => exact ⟨completesNew_of_visited_eq rfl, trivial, nofun⟩
  | finish =>
      intro persistent calls failed made
      rcases Visit.ofCalls_eq_finish made.symm with ⟨rfl, rfl⟩
      exact ⟨rfl, completesNew_of_visited_eq rfl, nofun⟩
  | raise => cases succeeded
  | add head tail headIH tailIH =>
      intro persistent calls failed made
      rcases Visit.ofCalls_eq_add made.symm with ⟨rest, rfl, onward⟩
      have later := tailIH (head.owner.trans sameOwner)
        (fun call mentioned => start call (Or.inr ⟨_, mentioned⟩)) succeeded
      exact later.cons tail.grows (headIH sameOwner (start _ (Or.inl rfl))) onward
  | maybeAdd head tail headIH tailIH =>
      intro persistent calls failed made
      rcases Visit.ofCalls_eq_maybeAdd made.symm with ⟨rest, rfl, onward⟩
      have later := tailIH (head.owner.trans sameOwner)
        (fun call mentioned => start call (Or.inr ⟨_, mentioned⟩)) succeeded
      exact later.cons tail.grows (headIH sameOwner (start _ (Or.inl rfl))) onward
  | fail tail tailIH =>
      intro persistent calls failed made
      rcases Visit.ofCalls_eq_fail made.symm with ⟨rest, rfl, onward⟩
      rcases tailIH sameOwner (fun call mentioned => start call (Or.inr mentioned)) succeeded
          persistent rest failed onward with ⟨unfailed, completes, accepted⟩
      exact ⟨unfailed, completes, List.forall_mem_cons.mpr ⟨⟨trivial, nofun⟩, accepted⟩⟩
  | declare =>
      intro persistent calls failed made
      exact absurd made.symm Visit.ofCalls_ne_declare

/-- If a call is accepted and every contributor visited since is completed, then everything that the
call reaches anew is accepted. -/
theorem Accepted.of_reachesAnew
    {within : ContextCall → Prop}
    {shapeOf : ContributorId → Shape}
    {call other : ContextCall}
    (closed : Closed contributors owner within)
    (oneShape :
      ∀ shape place, within (.add (.contributor shape place)) → shape = shapeOf place)
    (completes : CompletesNew contributors owner shapeOf context after)
    (start : within call)
    (accepted : after.Accepted contributors call)
    (anew : call.ReachesAnew contributors owner context.visited other) :
    after.Accepted contributors other := by
  induction anew with
  | refl => exact accepted
  | @tail middle other anew step ih =>
      rcases step with ⟨notPassed, prompts⟩
      cases prompts with
      | @supported declaration supported =>
          refine ⟨ih.1 supported, ?_⟩
          rintro value ⟨⟩
          cases supported
      | @visit shape place contributor _ present mentioned =>
          have sameShape :=
            oneShape shape place (closed.of_reaches (ReachesAnew.reaches anew) start)
          have visited := ih.1.2 place rfl (List.getElem?_eq_some_iff.mp present).1
          have new : place ∉ context.visited :=
            fun seen => notPassed ⟨shape, place, rfl, seen⟩
          subst sameShape
          exact completes place visited new contributor present other mentioned

/-- The contributors that a walk visits are added by calls of any closed set that its calls belong
to. -/
theorem Walk.mem_visited
    {within : ContextCall → Prop}
    (closed : Closed contributors owner within)
    (walk : Walk contributors context errand moments after result)
    (sameOwner : context.owner = owner)
    (start : errand.Within within) :
    ∀ place ∈ after.visited,
      place ∈ context.visited ∨ ∃ shape, within (.add (.contributor shape place)) := by
  induction walk with
  | @node context declaration node isNode =>
      intro place seen
      rw [Context.record_visited] at seen
      exact Or.inl seen
  | foreign => exact fun _ => Or.inl
  | known => exact fun _ => Or.inl
  | @first context after shape place contributor _ _ fresh present _ visitIH =>
      subst sameOwner
      intro other seen
      rcases visitIH rfl (fun call mentioned => closed _ _ start (.visit present mentioned))
          other seen with entered | added
      · rw [Context.enter_visited] at entered
        rcases List.mem_append.mp entered with old | new
        · exact Or.inl old
        · rw [List.mem_singleton.mp new]
          exact Or.inr ⟨shape, start⟩
      · exact Or.inr added
  | ignored => exact fun _ => Or.inl
  | supported supported _ walkIH =>
      exact walkIH sameOwner (closed _ _ start (.supported supported))
  | failure => exact fun _ => Or.inl
  | finish => exact fun _ => Or.inl
  | raise => exact fun _ => Or.inl
  | add head _ headIH tailIH =>
      intro place seen
      have onward := tailIH (head.owner.trans sameOwner)
        fun call mentioned => start call (Or.inr ⟨_, mentioned⟩)
      rcases onward place seen with earlier | added
      · exact headIH sameOwner (start _ (Or.inl rfl)) place earlier
      · exact Or.inr added
  | maybeAdd head _ headIH tailIH =>
      intro place seen
      have onward := tailIH (head.owner.trans sameOwner)
        fun call mentioned => start call (Or.inr ⟨_, mentioned⟩)
      rcases onward place seen with earlier | added
      · exact headIH sameOwner (start _ (Or.inl rfl)) place earlier
      · exact Or.inr added
  | fail _ tailIH =>
      exact tailIH sameOwner fun call mentioned => start call (Or.inr mentioned)
  | declare _ tailIH =>
      exact tailIH sameOwner fun call mentioned => start call mentioned

/-! ## Calls one after the other -/

namespace Context

/-- The contributors visited are reached from the calls made. -/
theorem mem_visited_performAll
    {within : ContextCall → Prop}
    (closed : Closed contributors owner within)
    (context : Context)
    (sameOwner : context.owner = owner)
    (calls : List ContextCall)
    (start : ∀ call ∈ calls, within call) :
    ∀ place ∈ (context.performAll contributors calls).visited,
      place ∈ context.visited ∨ ∃ shape, within (.add (.contributor shape place)) := by
  induction calls generalizing context with
  | nil => exact fun _ => Or.inl
  | cons call calls ih =>
      intro place seen
      rw [List.forall_mem_cons] at start
      rcases walk_perform contributors context call with ⟨moments, walk⟩
      rcases ih _ (walk.owner.trans sameOwner) start.2 place seen with earlier | added
      · exact walk.mem_visited closed sameOwner start.1 place earlier
      · exact Or.inr added

/-- True if each of the calls made one after the other succeeds. -/
def AllSucceed
    (contributors : Contributors)
    (context : Context)
    (calls : List ContextCall) :
    Prop :=
  ∀ earlier call later, calls = earlier ++ call :: later →
    ((context.performAll contributors earlier).perform contributors call).2 = .ok ()

/-- What the answer of a call tells of what the call leads to anew. -/
theorem answer_anew
    {shapeOf : ContributorId → Shape}
    {call : ContextCall}
    (fixed : ∀ contributor ∈ contributors, contributor.MakesCalls owner)
    (sameOwner : context.owner = owner)
    (oneShape : OneShape contributors owner [call] shapeOf) :
    ((∃ error, (context.perform contributors call).2 = .error error) ↔
      ∃ value, call.ReachesAnew contributors owner context.visited (.add (.other value))) ∧
    ((context.perform contributors call).2 = .ok () →
      ∀ other, call.ReachesAnew contributors owner context.visited other →
        (context.perform contributors call).1.Accepted contributors other) := by
  rcases walk_perform contributors context call with ⟨moments, walk⟩
  have closed := closed_reachedFrom contributors owner [call]
  have start : ReachedFrom contributors owner [call] call :=
    reachedFrom_of_mem contributors owner [call] call (List.mem_singleton_self call)
  have accepts (succeeded : (context.perform contributors call).2 = .ok ())
      (other : ContextCall)
      (anew : call.ReachesAnew contributors owner context.visited other) :
      (context.perform contributors call).1.Accepted contributors other := by
    rcases walk.accepted fixed closed oneShape sameOwner start succeeded with
      ⟨completes, accepted⟩
    exact Accepted.of_reachesAnew closed oneShape completes start accepted anew
  refine ⟨⟨?_, ?_⟩, accepts⟩
  · rintro ⟨error, failed⟩
    exact walk.faulty fixed sameOwner (List.Subset.refl _) failed
  · rintro ⟨value, anew⟩
    cases answer : (context.perform contributors call).2 with
    | error error => exact ⟨error, rfl⟩
    | ok _ => exact absurd rfl ((accepts answer _ anew).2 value)

/-- After clean calls nothing that was visited leads to a value that is no dependency. -/
theorem cleanBefore_of_clean
    {shapeOf : ContributorId → Shape}
    {earlier : List ContextCall}
    {call : ContextCall}
    (oneShape : OneShape contributors owner (earlier ++ [call]) shapeOf)
    (clean : ∀ call ∈ earlier, call.Clean contributors owner) :
    call.CleanBefore contributors owner
      ((Context.fresh owner).performAll contributors earlier).visited := by
  intro shape place reached seen
  rcases mem_visited_performAll (closed_reachedFrom contributors owner earlier) (.fresh owner) rfl
      earlier (reachedFrom_of_mem contributors owner earlier) place seen with
    old | ⟨firstShape, first, inEarlier, reaches⟩
  · cases old
  · have sameShape : firstShape = shape := by
      rw [oneShape firstShape place ⟨first, List.mem_append_left _ inEarlier, reaches⟩,
        oneShape shape place ⟨call, by simp, reached⟩]
    rw [← sameShape]
    exact (clean first inEarlier).of_reaches reaches

/-- As long as no call has failed, none has led to a value that is no dependency. -/
theorem clean_of_allSucceed
    {shapeOf : ContributorId → Shape}
    {calls : List ContextCall}
    (fixed : ∀ contributor ∈ contributors, contributor.MakesCalls owner)
    (oneShape : OneShape contributors owner calls shapeOf)
    (succeed : AllSucceed contributors (.fresh owner) calls) :
    ∀ call ∈ calls, call.Clean contributors owner := by
  induction calls using List.reverseRecOn with
  | nil => exact fun _ member => nomatch member
  | append_singleton earlier call ih =>
      have succeedEarlier : AllSucceed contributors (.fresh owner) earlier := by
        rintro before other after rfl
        exact succeed before other (after ++ [call]) (by simp)
      have cleanEarlier := ih (oneShape.mono (List.subset_append_left _ _)) succeedEarlier
      have cleanCall : call.Clean contributors owner := by
        intro value reaches
        have sameOwner : ((fresh owner).performAll contributors earlier).owner = owner :=
          performAll_owner (.fresh owner) earlier
        have anew := Reaches.anew (cleanBefore_of_clean oneShape cleanEarlier) reaches
        rcases (answer_anew fixed sameOwner (oneShape.mono (List.subset_append_right _ _))).1.mpr
          ⟨value, anew⟩ with ⟨error, failed⟩
        cases (succeed earlier call [] rfl).symm.trans failed
      intro other member
      rcases List.mem_append.mp member with inEarlier | last
      · exact cleanEarlier other inEarlier
      · rw [List.mem_singleton.mp last]
        exact cleanCall

end Context

end Answers

/-- What the answer of a call tells, of contributors that make fixed lists of calls and have one
shape each, whatever calls were made before and whichever of them failed.  The call fails exactly if
it leads anew to a value that is no dependency, and if it does not fail, every node that it leads to
anew is recorded.  Where nothing that was visited before leads to such a value, and in particular as
long as no call has failed, the same holds of everything that the call leads to at all. -/
theorem answer_of_call
    (contributors : Contributors)
    (owner : Option Task)
    (earlier : List ContextCall)
    (call : ContextCall)
    (shapeOf : ContributorId → Shape)
    (fixed : ∀ contributor ∈ contributors, contributor.MakesCalls owner)
    (oneShape : OneShape contributors owner (earlier ++ [call]) shapeOf) :
    let context := (Context.fresh owner).performAll contributors earlier
    let step := context.perform contributors call
    ((∃ error, step.2 = .error error) ↔
      ∃ value, call.ReachesAnew contributors owner context.visited (.add (.other value))) ∧
    (step.2 = .ok () →
      ∀ node, call.ReachesNodeAnew contributors owner context.visited node →
        ∃ recorded ∈ step.1.nodes, recorded.key = node.key) ∧
    (call.CleanBefore contributors owner context.visited →
      ((∃ error, step.2 = .error error) ↔
        ∃ value, call.Reaches contributors owner (.add (.other value))) ∧
      (step.2 = .ok () →
        ∀ node, call.ReachesNode contributors owner node →
          ∃ recorded ∈ step.1.nodes, recorded.key = node.key)) ∧
    (Context.AllSucceed contributors (.fresh owner) earlier →
      call.CleanBefore contributors owner context.visited) := by
  intro context step
  have sameOwner : context.owner = owner := Context.performAll_owner _ earlier
  have consistent : step.1.Consistent :=
    ((Context.consistent_fresh owner).performAll contributors earlier).perform contributors call
  have oneShapeCall := oneShape.mono (List.subset_append_right earlier [call])
  rcases Context.answer_anew fixed sameOwner oneShapeCall with ⟨failsIff, accepts⟩
  refine ⟨failsIff, ?_, ?_, ?_⟩
  · rintro succeeded node ⟨declaration, anew, isNode⟩
    have accepted := accepts succeeded _ anew
    exact (consistent.contains_iff node.key).mp (accepted.1.1 node isNode)
  · intro cleanBefore
    have failsIffReached :
        (∃ error, step.2 = .error error) ↔
          ∃ value, call.Reaches contributors owner (.add (.other value)) := by
      rw [failsIff]
      constructor
      · rintro ⟨value, anew⟩
        exact ⟨value, anew.reaches⟩
      · rintro ⟨value, reaches⟩
        exact ⟨value, Reaches.anew cleanBefore reaches⟩
    refine ⟨failsIffReached, ?_⟩
    rintro succeeded node ⟨declaration, reaches, isNode⟩
    have clean : call.Clean contributors owner := by
      intro value reachesForeign
      rcases failsIffReached.mpr ⟨value, reachesForeign⟩ with ⟨error, failed⟩
      cases succeeded.symm.trans failed
    have handled := (Context.clean_call fixed oneShape clean).2 _ reaches
    rw [Context.performAll_append] at handled
    exact (consistent.contains_iff node.key).mp (handled.1 node isNode)
  · intro succeed
    have clean := Context.clean_of_allSucceed fixed
      (oneShape.mono (List.subset_append_left _ _)) succeed
    exact Context.cleanBefore_of_clean oneShape clean

/-! ## A set that is added again after it has failed -/

namespace AddedAgain

/-- A value that is no dependency. -/
def number : ForeignValue := ⟨"u8", "7", .null⟩

/-- A work action. -/
def cleanup : WorkAction := ⟨⟨1⟩, .finalize, "cleanup"⟩

/-- A set that adds a value that is no dependency before it adds a work action. -/
def mixedSet : Contributor := .dependencySet [.other number, .work cleanup]

/-- The addition of the set. -/
def addMixedSet : ContextCall := .add (.contributor .container 0)

theorem mentions_mixedSet (call : ContextCall) :
    (mixedSet.performance none .container).Mentions call ↔
      call = .add (.other number) ∨ call = .add (.work cleanup) := by
  rw [show mixedSet.performance none .container = .addAll [.other number, .work cleanup] from rfl,
    Visit.addAll_eq_ofCalls, Visit.mentions_ofCalls]
  simp

theorem reaches_number : addMixedSet.Reaches [mixedSet] none (.add (.other number)) :=
  .single (.visit rfl ((mentions_mixedSet _).mpr (Or.inl rfl)))

theorem reachesNode_cleanup : addMixedSet.ReachesNode [mixedSet] none (.work cleanup) :=
  ⟨.work cleanup, .single (.visit rfl ((mentions_mixedSet _).mpr (Or.inr rfl))), rfl⟩

theorem makesCalls_mixedSet : ∀ contributor ∈ [mixedSet], contributor.MakesCalls none := by
  intro contributor member
  rw [List.mem_singleton.mp member]
  exact ⟨false, _, Visit.addAll_eq_ofCalls _⟩

theorem oneShape_mixedSet
    (calls : List ContextCall)
    (additions : ∀ call ∈ calls, call = addMixedSet) :
    OneShape [mixedSet] none calls fun _ => .container := by
  let within (call : ContextCall) : Prop :=
    ∀ shape place, call.declaration? = some (.contributor shape place) → shape = .container
  have closed : Closed [mixedSet] none within := by
    intro call other member prompts
    cases prompts with
    | supported => exact member
    | @visit shape place contributor _ present mentioned =>
        have isSet : contributor = mixedSet :=
          List.mem_singleton.mp (List.mem_of_getElem? present)
        rw [isSet, member shape place rfl, mentions_mixedSet] at mentioned
        rcases mentioned with rfl | rfl <;> nofun
  rintro shape place ⟨call, member, reaches⟩
  refine closed.of_reaches reaches ?_ shape place rfl
  rw [additions call member]
  rintro _ _ ⟨⟩
  rfl

/-- The second addition of the set succeeds, though the set adds a value that is no dependency, and
the work action is not recorded. -/
theorem passed_over_without_error :
    let context := (Context.fresh none).performAll [mixedSet] [addMixedSet]
    let step := context.perform [mixedSet] addMixedSet
    ¬ ((∃ error, step.2 = .error error) ↔
        ∃ value, addMixedSet.Reaches [mixedSet] none (.add (.other value))) ∧
      ¬ (step.2 = .ok () →
        ∀ node, addMixedSet.ReachesNode [mixedSet] none node →
          ∃ recorded ∈ step.1.nodes, recorded.key = node.key) := by
  intro context step
  have succeeded : step.2 = .ok () := rfl
  have nothing : step.1.nodes = [] := rfl
  constructor
  · intro trusted
    rcases trusted.mpr ⟨number, reaches_number⟩ with ⟨error, failed⟩
    cases succeeded.symm.trans failed
  · intro trusted
    rcases trusted succeeded _ reachesNode_cleanup with ⟨recorded, member, -⟩
    rw [nothing] at member
    cases member

/-- The first addition of the set fails, and the second one reaches no reason to fail. -/
theorem first_addition_fails :
    (∀ contributor ∈ [mixedSet], contributor.MakesCalls none) ∧
      OneShape [mixedSet] none [addMixedSet, addMixedSet] (fun _ => .container) ∧
      (∃ error, ((Context.fresh none).perform [mixedSet] addMixedSet).2 = .error error) ∧
      ¬ ∃ value,
        addMixedSet.ReachesAnew [mixedSet] none
          ((Context.fresh none).performAll [mixedSet] [addMixedSet]).visited
          (.add (.other value)) := by
  have oneShape : OneShape [mixedSet] none [addMixedSet, addMixedSet] fun _ => .container :=
    oneShape_mixedSet _ (by simp)
  refine ⟨makesCalls_mixedSet, oneShape, ?_, ?_⟩
  · have answer := answer_of_call [mixedSet] none [] addMixedSet _ makesCalls_mixedSet
      (oneShape_mixedSet _ (by simp))
    have trusted := answer.2.2.1 (answer.2.2.2 (by rintro earlier _ _ split; simp at split))
    exact trusted.1.mpr ⟨number, reaches_number⟩
  · have answer := answer_of_call [mixedSet] none [addMixedSet] addMixedSet _ makesCalls_mixedSet
      oneShape
    intro anew
    rcases answer.1.mpr anew with ⟨error, failed⟩
    cases failed

end AddedAgain

end TaskDispatch
