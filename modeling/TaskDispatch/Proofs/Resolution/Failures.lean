import TaskDispatch.Proofs.Resolution.Chronicle

/-!
# Failures of a walk

A context keeps the failures that it is told of, each with the declaration that it takes to be
visited.  Which failures these should be is read off the story of the walk: a failure belongs to the
innermost of the visits that have begun before it and have not ended, and to the top level if there
is none.

The context keeps a stack of names for this, and a visit may end in the middle, with an error.  The
invariant is `Context.Recalls`: the stack holds the names of the visits in progress.  The main
statement, `Walk.exists_told`, says what a walk makes of a context for which the invariant holds.
-/

namespace TaskDispatch

namespace Incident

/-- The visits in progress after some incidents, the outermost first. -/
def inProgress (past : List Incident) : List (ContributorId × String) :=
  (visits past).filter fun visit => visit.1 ∉ endings past

/-- The declaration that is visited after some incidents. -/
def declarationAfter (past : List Incident) : String :=
  ((inProgress past).getLast?.map Prod.snd).getD topLevel

/-- The failures among some incidents, each with the declaration that is visited when it happens. -/
def failuresAfter (past : List Incident) : List Incident → List ResolutionFailure
  | [] => []
  | incident :: later =>
      incident.cause?.toList.map (fun cause => ⟨declarationAfter past, cause⟩) ++
        failuresAfter (past ++ [incident]) later

theorem failuresAfter_append (past earlier later : List Incident) :
    failuresAfter past (earlier ++ later) =
      failuresAfter past earlier ++ failuresAfter (past ++ earlier) later := by
  induction earlier generalizing past with
  | nil => simp [failuresAfter]
  | cons incident earlier ih => simp [failuresAfter, ih]

/-- Where nothing fails, there are no failures. -/
theorem failuresAfter_eq_nil
    {incidents : List Incident}
    (calm : ∀ incident ∈ incidents, incident.cause? = none)
    (past : List Incident) :
    failuresAfter past incidents = [] := by
  induction incidents generalizing past with
  | nil => rfl
  | cons incident incidents ih =>
      rw [List.forall_mem_cons] at calm
      simp [failuresAfter, calm.1, ih calm.2]

theorem inProgress_concat_began
    {past : List Incident}
    {place : ContributorId}
    (notEnded : place ∉ endings past)
    (name : String) :
    inProgress (past ++ [.began place name]) = inProgress past ++ [(place, name)] := by
  simp [inProgress, begun?, ended?, notEnded]

/-- Incidents with which no visit begins or ends change nothing in what is in progress. -/
theorem inProgress_concat
    {incident : Incident}
    (begins : incident.begun? = none)
    (ends : incident.ended? = none)
    (past : List Incident) :
    inProgress (past ++ [incident]) = inProgress past := by
  simp [inProgress, begins, ends]

end Incident

open Incident

/-- A whole story leaves in progress what was before. -/
theorem Chronicle.inProgress_append
    {contributors : Contributors}
    {owner : Option Task}
    {visited after : List ContributorId}
    {errand : Errand}
    {incidents : List Incident}
    {result : AddResult}
    (chronicle : Chronicle contributors owner visited errand incidents after result)
    {past : List Incident}
    (visitedBefore : ∀ visit ∈ visits past, visit.1 ∈ visited) :
    inProgress (past ++ incidents) = inProgress past := by
  unfold inProgress
  rw [visits_append, List.filter_append, endings_append]
  have noneLeft :
      (visits incidents).filter
          (fun visit => visit.1 ∉ endings past ++ endings incidents) = [] := by
    rw [List.filter_eq_nil_iff]
    intro visit member
    have ended : visit.1 ∈ endings incidents :=
      (chronicle.mem_endings_iff visit.1).mpr (List.mem_map_of_mem member)
    simp [ended]
  rw [noneLeft, List.append_nil]
  apply List.filter_congr
  intro visit member
  have notEnded : visit.1 ∉ endings incidents := by
    intro ended
    exact chronicle.not_mem_visited _ ((chronicle.mem_endings_iff _).mp ended)
      (visitedBefore visit member)
  simp [notEnded]

/-! ## What a context makes of its walk -/

/-- True of a context in the state in which some incidents leave it. -/
structure Context.Recalls (context : Context) (past : List Incident) : Prop where
  visiting : context.visiting = ((inProgress past).map Prod.snd).reverse
  begun : ∀ visit ∈ visits past, visit.1 ∈ context.visited
  ended : ∀ place ∈ endings past, place ∈ context.visited

namespace Context.Recalls

variable
  {contributors : Contributors}
  {context after : Context}
  {past : List Incident}

theorem fresh (owner : Option Task) : (Context.fresh owner).Recalls [] := by
  constructor
  · rfl
  · exact fun visit member => (List.not_mem_nil member).elim
  · exact fun place member => (List.not_mem_nil member).elim

theorem currentDeclaration_eq (recalls : context.Recalls past) :
    context.currentDeclaration = declarationAfter past := by
  rw [currentDeclaration, recalls.visiting, List.head?_reverse, List.getLast?_map]
  rfl

theorem enter
    (recalls : context.Recalls past)
    {place : ContributorId}
    (fresh : place ∉ context.visited)
    (shape : Shape)
    (name : String) :
    (context.enter shape place name).Recalls (past ++ [.began place name]) := by
  have notEnded : place ∉ endings past := fun ended => fresh (recalls.ended place ended)
  constructor
  · rw [inProgress_concat_began notEnded, enter_visiting, recalls.visiting]
    simp
  · rw [visits_append, List.forall_mem_append, enter_visited]
    refine ⟨fun visit member => ?_, by simp [begun?]⟩
    exact List.mem_append_left _ (recalls.begun visit member)
  · rw [endings_append, List.forall_mem_append, enter_visited]
    refine ⟨fun place member => ?_, by simp [ended?]⟩
    exact List.mem_append_left _ (recalls.ended place member)

/-- Incidents with which no visit begins or ends leave a context of which only visits are looked at
where it is. -/
theorem pass
    (recalls : context.Recalls past)
    (incident : Incident)
    (begins : incident.begun? = none)
    (ends : incident.ended? = none)
    (visiting : after.visiting = context.visiting)
    (visited : after.visited = context.visited) :
    after.Recalls (past ++ [incident]) := by
  constructor
  · rw [inProgress_concat begins ends, visiting, recalls.visiting]
  · simp only [visits_append, visits_cons, visits_nil, begins, Option.toList_none,
      List.append_nil, visited]
    exact recalls.begun
  · simp only [endings_append, endings_cons, endings_nil, ends, Option.toList_none,
      List.append_nil, visited]
    exact recalls.ended

/-- What is left of a context after a walk recalls the story of the walk. -/
theorem walk
    (recalls : context.Recalls past)
    {errand : Errand}
    {moments : List Moment}
    {incidents : List Incident}
    {result : AddResult}
    (walk : Walk contributors context errand moments after result)
    (chronicle :
      Chronicle contributors context.owner context.visited errand incidents after.visited result) :
    after.Recalls (past ++ incidents) := by
  constructor
  · rw [chronicle.inProgress_append recalls.begun, walk.visiting, recalls.visiting]
  · rw [visits_append, List.forall_mem_append, chronicle.visited_eq]
    refine ⟨fun visit member => ?_, fun visit member => ?_⟩
    · exact List.mem_append_left _ (recalls.begun visit member)
    · exact List.mem_append_right _ (List.mem_map_of_mem member)
  · rw [endings_append, List.forall_mem_append, chronicle.visited_eq]
    refine ⟨fun place member => ?_, fun place member => ?_⟩
    · exact List.mem_append_left _ (recalls.ended place member)
    · exact List.mem_append_right _ ((chronicle.mem_endings_iff place).mp member)

end Context.Recalls

theorem Context.record_failures (context : Context) (node : Node) :
    (context.record node).failures = context.failures := by
  unfold record
  split <;> rfl

/-- What is left of a context is what the story of its walk says. -/
structure Told
    (contributors : Contributors)
    (past : List Incident)
    (context : Context)
    (errand : Errand)
    (incidents : List Incident)
    (after : Context)
    (result : AddResult) :
    Prop where
  chronicle :
    Chronicle contributors context.owner context.visited errand incidents after.visited result
  nodes : after.nodes = Node.recordAll context.nodes (nodes incidents)
  failures : after.failures = context.failures ++ failuresAfter past incidents

/-- To add tasks is to meet them, and each addition succeeds. -/
theorem Chronicle.of_addAll_tasks
    {contributors : Contributors}
    {owner : Option Task}
    {visited after : List ContributorId}
    {members : List Task}
    {incidents : List Incident}
    {result : AddResult}
    (chronicle :
      Chronicle contributors owner visited (.follow (.addAll (members.map .task))) incidents after
        result) :
    after = visited ∧ result = .ok () ∧ nodes incidents = members.map .task ∧
      ∀ incident ∈ incidents, incident.cause? = none := by
  induction members generalizing incidents with
  | nil =>
      cases chronicle
      exact ⟨rfl, rfl, rfl, fun _ none => (List.not_mem_nil none).elim⟩
  | cons member members ih =>
      cases chronicle with
      | add head tail =>
          cases head with
          | node isNode =>
              cases isNode
              rcases ih tail with ⟨rfl, rfl, met, calm⟩
              refine ⟨rfl, rfl, ?_, ?_⟩
              · simp [node?, met]
              · simpa [cause?] using calm

theorem Chronicle.of_fail
    {contributors : Contributors}
    {owner : Option Task}
    {visited after : List ContributorId}
    {cause : Cause}
    {incidents : List Incident}
    {result : AddResult}
    (chronicle :
      Chronicle contributors owner visited (.follow (.fail cause .finish)) incidents after result) :
    after = visited ∧ result = .ok () ∧ incidents = [.reported cause] := by
  cases chronicle with
  | fail tail =>
      cases tail
      exact ⟨rfl, rfl, rfl⟩

/-- To add one declaration is to come to the same end as its addition. -/
theorem Chronicle.of_addAll_singleton
    {contributors : Contributors}
    {owner : Option Task}
    {visited after : List ContributorId}
    {declaration : Declaration}
    {incidents : List Incident}
    {result : AddResult}
    (chronicle :
      Chronicle contributors owner visited (.follow (.addAll [declaration])) incidents after
        result) :
    ∃ inside,
      incidents = inside ++ [.answered result] ∧
        Chronicle contributors owner visited (.call (.add declaration)) inside after result := by
  cases chronicle with
  | @add _ _ _ _ _ _ _ outcome _ head tail =>
      cases outcome with
      | ok =>
          cases tail
          exact ⟨_, rfl, head⟩
      | error error =>
          cases tail
          exact ⟨_, rfl, head⟩

namespace Told

variable
  {contributors : Contributors}
  {context after : Context}
  {past incidents : List Incident}
  {result : AddResult}

/-- The story of a visit, from what was done in it. -/
theorem visit
    {shape : Shape}
    {place : ContributorId}
    {name : String}
    {errand : Errand}
    (told :
      Told contributors (past ++ [.began place name]) (context.enter shape place name) errand
        incidents after result)
    (inside : List Incident)
    (chronicle :
      Chronicle contributors context.owner context.visited
        (.call (.add (.contributor shape place))) (.began place name :: (inside ++ [.ended place]))
        after.visited result)
    (sameNodes : Incident.nodes inside = Incident.nodes incidents)
    (sameFailures :
      failuresAfter (past ++ [.began place name]) inside =
        failuresAfter (past ++ [.began place name]) incidents) :
    Told contributors past context (.call (.add (.contributor shape place)))
      (.began place name :: (inside ++ [.ended place])) after.leave result := by
  refine ⟨chronicle, ?_, ?_⟩
  · rw [Context.leave_nodes, told.nodes]
    simp [node?, sameNodes]
  · rw [Context.leave, told.failures]
    simp [failuresAfter, failuresAfter_append, cause?, sameFailures, Context.enter]

/-- The story of a visit that is entered for the first time. -/
theorem first
    {shape : Shape}
    {place : ContributorId}
    {contributor : Contributor}
    (fresh : place ∉ context.visited)
    (present : contributors[place]? = some contributor)
    (told :
      Told contributors (past ++ [.began place (contributor.displayName shape)])
        (context.enter shape place (contributor.displayName shape))
        (.follow (contributor.performance context.owner shape)) incidents after result) :
    ∃ incidents,
      Told contributors past context (.call (.add (.contributor shape place))) incidents
        after.leave result := by
  have chronicle := told.chronicle
  rw [Context.enter_owner, Context.enter_visited] at chronicle
  cases shape with
  | tasks =>
      unfold Contributor.performance at chronicle
      cases listed : contributor.tasks context.owner with
      | ok members =>
          simp only [listed] at chronicle
          rcases chronicle.of_addAll_tasks with ⟨visited, rfl, met, calm⟩
          have story := Chronicle.tasks fresh present listed
          rw [← visited] at story
          refine ⟨_, told.visit _ story ?_ ?_⟩
          · rw [nodes_members, met]
          · rw [failuresAfter_eq_nil calm, failuresAfter_eq_nil]
            simp [cause?]
      | error cause =>
          simp only [listed] at chronicle
          rcases chronicle.of_fail with ⟨visited, rfl, rfl⟩
          have story := Chronicle.tasksFailed fresh present listed
          rw [← visited] at story
          refine ⟨_, told.visit [_] story ?_ ?_⟩
          · rfl
          · rfl
  | buildable =>
      unfold Contributor.performance at chronicle
      cases built : contributor.build with
      | ok declaration =>
          simp only [built] at chronicle
          rcases chronicle.of_addAll_singleton with ⟨inside, rfl, added⟩
          refine ⟨_, told.visit _ (.buildable fresh present built added) ?_ ?_⟩
          · simp [node?]
          · simp [failuresAfter, failuresAfter_append, cause?]
      | error cause =>
          simp only [built] at chronicle
          rcases chronicle.of_fail with ⟨visited, rfl, rfl⟩
          have story : Chronicle contributors context.owner context.visited _ _ _ _ :=
            .buildFailed fresh present built
          rw [← visited] at story
          refine ⟨_, told.visit [_] story ?_ ?_⟩
          · rfl
          · rfl
  | container => exact ⟨_, told.visit _ (.visit (.inl rfl) fresh present chronicle) rfl rfl⟩
  | transformation => exact ⟨_, told.visit _ (.visit (.inr rfl) fresh present chronicle) rfl rfl⟩

/-- The story of an addition goes on with that of what follows it. -/
theorem answered
    {middle : Context}
    {call : ContextCall}
    {moments : List Moment}
    {outcome : AddResult}
    {errand : Errand}
    (recalls : context.Recalls past)
    (walk : Walk contributors context (.call call) moments middle outcome)
    (head : Told contributors past context (.call call) incidents middle outcome)
    (onward :
      ∀ {past : List Incident}, middle.Recalls past →
        ∃ later, Told contributors past middle errand later after result) :
    ∃ later,
      Chronicle contributors context.owner middle.visited errand later after.visited result ∧
        after.nodes =
          Node.recordAll context.nodes (Incident.nodes (incidents ++ .answered outcome :: later)) ∧
        after.failures =
          context.failures ++ failuresAfter past (incidents ++ .answered outcome :: later) := by
  have between := (recalls.walk walk head.chronicle).pass (.answered outcome) rfl rfl rfl rfl
  rcases onward between with ⟨later, tail⟩
  have chronicle := tail.chronicle
  rw [walk.owner] at chronicle
  refine ⟨later, chronicle, ?_, ?_⟩
  · rw [tail.nodes, head.nodes, ← Node.recordAll_append]
    simp [node?]
  · rw [tail.failures, head.failures, failuresAfter_append]
    simp [failuresAfter, cause?]

end Told

/-- Every walk has a story, and its context is left as the story says. -/
theorem Walk.exists_told
    {contributors : Contributors}
    {context after : Context}
    {errand : Errand}
    {moments : List Moment}
    {result : AddResult}
    (walk : Walk contributors context errand moments after result)
    {past : List Incident}
    (recalls : context.Recalls past)
    (consistent : context.Consistent) :
    ∃ incidents, Told contributors past context errand incidents after result := by
  induction walk generalizing past with
  | @node context declaration node isNode =>
      refine ⟨[.met node], ?_, ?_, ?_⟩
      · rw [Context.record_visited]
        exact .node isNode
      · exact consistent.record_nodes node
      · simp [Context.record_failures, failuresAfter, cause?]
  | foreign => exact ⟨[], .foreign, rfl, (List.append_nil _).symm⟩
  | @known context shape place known =>
      rw [Context.hasVisited_iff] at known
      exact ⟨[], .known known, rfl, (List.append_nil _).symm⟩
  | @first context after shape place contributor moments result fresh present visit ih =>
      have unseen : place ∉ context.visited := by
        rw [← Context.hasVisited_iff, fresh]
        exact Bool.false_ne_true
      have entered := recalls.enter unseen shape (contributor.displayName shape)
      rcases ih entered consistent with ⟨incidents, told⟩
      exact told.first unseen present
  | ignored => exact ⟨[], .ignored, rfl, (List.append_nil _).symm⟩
  | supported supported _ ih =>
      rcases ih recalls consistent with ⟨incidents, told⟩
      exact ⟨incidents, .supported supported told.chronicle, told.nodes, told.failures⟩
  | @failure context cause =>
      refine ⟨[.reported cause], .failure, rfl, ?_⟩
      simp [Context.visitFailure, recalls.currentDeclaration_eq, failuresAfter, cause?]
  | finish => exact ⟨[], .finish, rfl, (List.append_nil _).symm⟩
  | raise => exact ⟨[], .raise, rfl, (List.append_nil _).symm⟩
  | add head _ headIH tailIH =>
      rcases headIH recalls consistent with ⟨incidents, told⟩
      have middle := head.consistent consistent
      rcases told.answered recalls head (fun recalls => tailIH recalls middle) with
        ⟨later, tail, nodes, failures⟩
      exact ⟨_, .add told.chronicle tail, nodes, failures⟩
  | maybeAdd head _ headIH tailIH =>
      rcases headIH recalls consistent with ⟨incidents, told⟩
      have middle := head.consistent consistent
      rcases told.answered recalls head (fun recalls => tailIH recalls middle) with
        ⟨later, tail, nodes, failures⟩
      exact ⟨_, .maybeAdd told.chronicle tail, nodes, failures⟩
  | @fail context after cause next moments result _ ih =>
      rcases ih (recalls.pass (.reported cause) rfl rfl rfl rfl) consistent with
        ⟨incidents, told⟩
      refine ⟨.reported cause :: incidents, .fail told.chronicle, ?_, ?_⟩
      · rw [told.nodes]
        rfl
      · rw [told.failures]
        simp [Context.visitFailure, recalls.currentDeclaration_eq, failuresAfter, cause?]
  | declare _ ih =>
      rcases ih ⟨recalls.visiting, recalls.begun, recalls.ended⟩ consistent with
        ⟨incidents, told⟩
      exact ⟨incidents, .declare told.chronicle, told.nodes, told.failures⟩

end TaskDispatch
