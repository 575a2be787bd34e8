import TaskDispatch.Proofs.Resolution.Unfolding

/-!
# Chronicles

A chronicle is the whole story of a depth-first walk, told without a context: which visits begin and
end, which nodes are met, which calls of contributors fail, which failures visits report, and how
the additions that visits make are answered.  All that it carries along is which contributors have
been visited; it knows nothing of what a context accumulates.

`Chronicle` says in rules which story belongs to a call or a visit.  By `Chronicle.deterministic`
there is at most one, and by `Chronicle.visited_eq` and `Chronicle.balanced` every visit that begins
in it is of a contributor not visited before, and ends in it.
-/

namespace TaskDispatch

/-- What happens on a walk. -/
inductive Incident where
  /-- The visit of a contributor begins, who is shown under this name. -/
  | began (place : ContributorId) (name : String)
  /-- The visit of a contributor ends. -/
  | ended (place : ContributorId)
  /-- A task or a work action is met. -/
  | met (node : Node)
  /-- The call of a task collection or of a buildable fails. -/
  | callFailed (cause : Cause)
  /-- A failure is reported in the course of a visit, or while there is none. -/
  | reported (cause : Cause)
  /-- An addition is answered. -/
  | answered (result : AddResult)

namespace Incident

def begun? : Incident → Option (ContributorId × String)
  | .began place name => some (place, name)
  | _ => none

def ended? : Incident → Option ContributorId
  | .ended place => some place
  | _ => none

def node? : Incident → Option Node
  | .met node => some node
  | _ => none

/-- The cause of an incident that is a failure. -/
def cause? : Incident → Option Cause
  | .callFailed cause => some cause
  | .reported cause => some cause
  | _ => none

def answer? : Incident → Option AddResult
  | .answered result => some result
  | _ => none

/-- The visits that begin, in order. -/
def visits (incidents : List Incident) : List (ContributorId × String) :=
  incidents.filterMap begun?

/-- The contributors whose visits end. -/
def endings (incidents : List Incident) : List ContributorId := incidents.filterMap ended?

/-- The tasks and work actions that are met. -/
def nodes (incidents : List Incident) : List Node := incidents.filterMap node?

/-- The answers to additions. -/
def answers (incidents : List Incident) : List AddResult := incidents.filterMap answer?

section Views

variable (incident : Incident) (earlier later : List Incident)

@[simp]
theorem visits_nil : visits [] = [] := rfl

@[simp]
theorem visits_cons : visits (incident :: later) = incident.begun?.toList ++ visits later := by
  cases incident <;> rfl

@[simp]
theorem visits_append : visits (earlier ++ later) = visits earlier ++ visits later :=
  List.filterMap_append

@[simp]
theorem endings_nil : endings [] = [] := rfl

@[simp]
theorem endings_cons : endings (incident :: later) = incident.ended?.toList ++ endings later := by
  cases incident <;> rfl

@[simp]
theorem endings_append : endings (earlier ++ later) = endings earlier ++ endings later :=
  List.filterMap_append

@[simp]
theorem nodes_nil : nodes [] = [] := rfl

@[simp]
theorem nodes_cons : nodes (incident :: later) = incident.node?.toList ++ nodes later := by
  cases incident <;> rfl

@[simp]
theorem nodes_append : nodes (earlier ++ later) = nodes earlier ++ nodes later :=
  List.filterMap_append

@[simp]
theorem answers_nil : answers [] = [] := rfl

@[simp]
theorem answers_cons : answers (incident :: later) = incident.answer?.toList ++ answers later := by
  cases incident <;> rfl

@[simp]
theorem answers_append : answers (earlier ++ later) = answers earlier ++ answers later :=
  List.filterMap_append

end Views

section Members

variable (members : List Task)

/-- Of tasks that are met nothing else is seen. -/
@[simp]
theorem visits_members : visits (members.map fun member => .met (.task member)) = [] := by
  induction members <;> simp_all [begun?]

@[simp]
theorem endings_members : endings (members.map fun member => .met (.task member)) = [] := by
  induction members <;> simp_all [ended?]

@[simp]
theorem nodes_members :
    nodes (members.map fun member => .met (.task member)) = members.map .task := by
  induction members <;> simp_all [node?]

@[simp]
theorem answers_members : answers (members.map fun member => .met (.task member)) = [] := by
  induction members <;> simp_all [answer?]

end Members

end Incident

open Incident

/-- The story of a call or a visit, with the contributors visited before and after it, and the
result. -/
inductive Chronicle (contributors : Contributors) (owner : Option Task) :
    List ContributorId → Errand → List Incident → List ContributorId → AddResult → Prop where
  /-- A task or a work action is met. -/
  | node {visited : List ContributorId} {declaration : Declaration} {node : Node}
      (isNode : declaration.node? = some node) :
      Chronicle contributors owner visited (.call (.add declaration)) [.met node] visited (.ok ())
  /-- A value that is no dependency is an error. -/
  | foreign {visited : List ContributorId} {value : ForeignValue} :
      Chronicle contributors owner visited (.call (.add (.other value))) [] visited
        (.error (value.unsupported (owner.map Task.path)))
  /-- A contributor visited before, or one that does not exist, is passed over. -/
  | known {visited : List ContributorId} {shape : Shape} {place : ContributorId}
      (known : place ∈ visited ∨ contributors.length ≤ place) :
      Chronicle contributors owner visited (.call (.add (.contributor shape place))) [] visited
        (.ok ())
  /-- The tasks of a collection are met in order. -/
  | tasks {visited : List ContributorId} {place : ContributorId} {contributor : Contributor}
      {members : List Task}
      (fresh : place ∉ visited)
      (present : contributors[place]? = some contributor)
      (listed : contributor.tasks owner = .ok members) :
      Chronicle contributors owner visited (.call (.add (.contributor .tasks place)))
        (.began place (contributor.displayName .tasks) ::
          (members.map (fun member => .met (.task member)) ++ [.ended place]))
        (visited ++ [place]) (.ok ())
  | tasksFailed {visited : List ContributorId} {place : ContributorId}
      {contributor : Contributor} {cause : Cause}
      (fresh : place ∉ visited)
      (present : contributors[place]? = some contributor)
      (failed : contributor.tasks owner = .error cause) :
      Chronicle contributors owner visited (.call (.add (.contributor .tasks place)))
        [.began place (contributor.displayName .tasks), .callFailed cause, .ended place]
        (visited ++ [place]) (.ok ())
  /-- What is built is walked as part of the visit. -/
  | buildable {visited after : List ContributorId} {place : ContributorId}
      {contributor : Contributor} {declaration : Declaration} {incidents : List Incident}
      {result : AddResult}
      (fresh : place ∉ visited)
      (present : contributors[place]? = some contributor)
      (built : contributor.build = .ok declaration)
      (added :
        Chronicle contributors owner (visited ++ [place]) (.call (.add declaration)) incidents
          after result) :
      Chronicle contributors owner visited (.call (.add (.contributor .buildable place)))
        (.began place (contributor.displayName .buildable) :: (incidents ++ [.ended place])) after
        result
  | buildFailed {visited : List ContributorId} {place : ContributorId}
      {contributor : Contributor} {cause : Cause}
      (fresh : place ∉ visited)
      (present : contributors[place]? = some contributor)
      (failed : contributor.build = .error cause) :
      Chronicle contributors owner visited (.call (.add (.contributor .buildable place)))
        [.began place (contributor.displayName .buildable), .callFailed cause, .ended place]
        (visited ++ [place]) (.ok ())
  /-- A container or a transformation makes its calls. -/
  | visit {visited after : List ContributorId} {shape : Shape} {place : ContributorId}
      {contributor : Contributor} {incidents : List Incident} {result : AddResult}
      (calls : shape = .container ∨ shape = .transformation)
      (fresh : place ∉ visited)
      (present : contributors[place]? = some contributor)
      (visit :
        Chronicle contributors owner (visited ++ [place]) (.follow (contributor.visit owner))
          incidents after result) :
      Chronicle contributors owner visited (.call (.add (.contributor shape place)))
        (.began place (contributor.displayName shape) :: (incidents ++ [.ended place])) after result
  /-- A value that is no dependency is ignored if it need not be one. -/
  | ignored {visited : List ContributorId} {value : ForeignValue} :
      Chronicle contributors owner visited (.call (.maybeAdd (.other value))) [] visited (.ok ())
  /-- Anything else that need not be a dependency is added. -/
  | supported {visited after : List ContributorId} {declaration : Declaration}
      {incidents : List Incident} {result : AddResult}
      (supported : declaration.isSupported = true)
      (added :
        Chronicle contributors owner visited (.call (.add declaration)) incidents after result) :
      Chronicle contributors owner visited (.call (.maybeAdd declaration)) incidents after result
  | failure {visited : List ContributorId} {cause : Cause} :
      Chronicle contributors owner visited (.call (.fail cause)) [.reported cause] visited (.ok ())
  | finish {visited : List ContributorId} :
      Chronicle contributors owner visited (.follow .finish) [] visited (.ok ())
  | raise {visited : List ContributorId} {error : UnsupportedDependency} :
      Chronicle contributors owner visited (.follow (.raise error)) [] visited (.error error)
  | add {visited middle after : List ContributorId} {declaration : Declaration}
      {next : AddResult → Visit} {incidents later : List Incident} {outcome result : AddResult}
      (head :
        Chronicle contributors owner visited (.call (.add declaration)) incidents middle outcome)
      (tail : Chronicle contributors owner middle (.follow (next outcome)) later after result) :
      Chronicle contributors owner visited (.follow (.add declaration next))
        (incidents ++ .answered outcome :: later) after result
  | maybeAdd {visited middle after : List ContributorId} {declaration : Declaration}
      {next : AddResult → Visit} {incidents later : List Incident} {outcome result : AddResult}
      (head :
        Chronicle contributors owner visited (.call (.maybeAdd declaration)) incidents middle
          outcome)
      (tail : Chronicle contributors owner middle (.follow (next outcome)) later after result) :
      Chronicle contributors owner visited (.follow (.maybeAdd declaration next))
        (incidents ++ .answered outcome :: later) after result
  | fail {visited after : List ContributorId} {cause : Cause} {next : Visit}
      {incidents : List Incident} {result : AddResult}
      (tail : Chronicle contributors owner visited (.follow next) incidents after result) :
      Chronicle contributors owner visited (.follow (.fail cause next))
        (.reported cause :: incidents) after result
  | declare {visited after : List ContributorId} {task : Identity} {declaration : Declaration}
      {next : Visit} {incidents : List Incident} {result : AddResult}
      (tail : Chronicle contributors owner visited (.follow next) incidents after result) :
      Chronicle contributors owner visited (.follow (.declare task declaration next)) incidents
        after result

namespace Chronicle

variable
  {contributors : Contributors}
  {owner : Option Task}
  {visited after : List ContributorId}
  {errand : Errand}
  {incidents : List Incident}
  {result : AddResult}

/-- The contributors visited are those before and those whose visits begin. -/
theorem visited_eq
    (chronicle : Chronicle contributors owner visited errand incidents after result) :
    after = visited ++ (visits incidents).map Prod.fst := by
  induction chronicle with
  | node => simp [begun?]
  | foreign => simp
  | known => simp
  | tasks => simp [begun?]
  | tasksFailed => simp [begun?]
  | buildable _ _ _ _ ih => simp [begun?, ih]
  | buildFailed => simp [begun?]
  | visit _ _ _ _ ih => simp [begun?, ih]
  | ignored => simp
  | supported _ _ ih => exact ih
  | failure => simp [begun?]
  | finish => simp
  | raise => simp
  | add _ _ headIH tailIH => simp [begun?, headIH, tailIH]
  | maybeAdd _ _ headIH tailIH => simp [begun?, headIH, tailIH]
  | fail _ ih => simpa [begun?] using ih
  | declare _ ih => exact ih

/-- The visits that end are those that begin. -/
theorem mem_endings_iff
    (chronicle : Chronicle contributors owner visited errand incidents after result)
    (place : ContributorId) :
    place ∈ endings incidents ↔ place ∈ (visits incidents).map Prod.fst := by
  induction chronicle with
  | node => simp [begun?, ended?]
  | foreign => simp
  | known => simp
  | tasks => simp [begun?, ended?]
  | tasksFailed => simp [begun?, ended?]
  | buildable _ _ _ _ ih => simp [begun?, ended?, ih, or_comm]
  | buildFailed => simp [begun?, ended?]
  | visit _ _ _ _ ih => simp [begun?, ended?, ih, or_comm]
  | ignored => simp
  | supported _ _ ih => exact ih
  | failure => simp [begun?, ended?]
  | finish => simp
  | raise => simp
  | add _ _ headIH tailIH => simp [begun?, ended?, headIH, tailIH]
  | maybeAdd _ _ headIH tailIH => simp [begun?, ended?, headIH, tailIH]
  | fail _ ih => simpa [begun?, ended?] using ih
  | declare _ ih => exact ih

/-- No contributor is visited again. -/
theorem not_mem_visited
    (chronicle : Chronicle contributors owner visited errand incidents after result) :
    ∀ place ∈ (visits incidents).map Prod.fst, place ∉ visited := by
  have nested {earlier : List ContributorId} {incidents : List Incident} {place : ContributorId}
      {name : String}
      (fresh : place ∉ earlier)
      (ih : ∀ other ∈ (visits incidents).map Prod.fst, other ∉ earlier ++ [place]) :
      ∀ other ∈ (visits (.began place name :: (incidents ++ [.ended place]))).map Prod.fst,
        other ∉ earlier := by
    intro other member
    simp only [visits_cons, visits_append, visits_nil, begun?, Option.toList_some,
      Option.toList_none, List.append_nil, List.singleton_append, List.map_cons,
      List.mem_cons] at member
    rcases member with rfl | member
    · exact fresh
    · exact fun seen => ih other member (List.mem_append_left _ seen)
  have onward {earlier middle : List ContributorId} {incidents later : List Incident}
      {call : ContextCall} {outcome : AddResult}
      (head : Chronicle contributors owner earlier (.call call) incidents middle outcome)
      (headIH : ∀ place ∈ (visits incidents).map Prod.fst, place ∉ earlier)
      (tailIH : ∀ place ∈ (visits later).map Prod.fst, place ∉ middle) :
      ∀ place ∈ (visits (incidents ++ .answered outcome :: later)).map Prod.fst,
        place ∉ earlier := by
    intro place member
    simp only [visits_append, visits_cons, begun?, Option.toList_none, List.nil_append,
      List.map_append, List.mem_append] at member
    rcases member with member | member
    · exact headIH place member
    · intro seen
      apply tailIH place member
      rw [head.visited_eq]
      exact List.mem_append_left _ seen
  induction chronicle with
  | node => simp [begun?]
  | foreign => simp
  | known => simp
  | tasks fresh => simpa [begun?] using fresh
  | tasksFailed fresh => simpa [begun?] using fresh
  | buildable fresh _ _ _ ih => exact nested fresh ih
  | buildFailed fresh => simpa [begun?] using fresh
  | visit _ fresh _ _ ih => exact nested fresh ih
  | ignored => simp
  | supported _ _ ih => exact ih
  | failure => simp [begun?]
  | finish => simp
  | raise => simp
  | add head _ headIH tailIH => exact onward head headIH tailIH
  | maybeAdd head _ headIH tailIH => exact onward head headIH tailIH
  | fail _ ih => simpa [begun?] using ih
  | declare _ ih => exact ih

/-- Contributors and an owner leave no choice. -/
theorem deterministic
    {after' : List ContributorId} {incidents' : List Incident} {result' : AddResult}
    (chronicle : Chronicle contributors owner visited errand incidents after result)
    (other : Chronicle contributors owner visited errand incidents' after' result') :
    incidents = incidents' ∧ after = after' ∧ result = result' := by
  have apart {earlier : List ContributorId} {place : ContributorId} {contributor : Contributor}
      (fresh : place ∉ earlier)
      (present : contributors[place]? = some contributor) :
      ¬ (place ∈ earlier ∨ contributors.length ≤ place) := by
    rintro (known | absent)
    · exact fresh known
    · rw [List.getElem?_eq_none absent] at present
      cases present
  induction chronicle generalizing incidents' after' result' with
  | node isNode =>
      cases other with
      | node isNode' =>
          cases isNode.symm.trans isNode'
          exact ⟨rfl, rfl, rfl⟩
      | _ => cases isNode
  | foreign =>
      cases other with
      | node isNode => cases isNode
      | foreign => exact ⟨rfl, rfl, rfl⟩
  | known known =>
      cases other with
      | node isNode => cases isNode
      | known => exact ⟨rfl, rfl, rfl⟩
      | tasks fresh present => exact (apart fresh present known).elim
      | tasksFailed fresh present => exact (apart fresh present known).elim
      | buildable fresh present => exact (apart fresh present known).elim
      | buildFailed fresh present => exact (apart fresh present known).elim
      | visit _ fresh present => exact (apart fresh present known).elim
  | tasks fresh present listed =>
      cases other with
      | node isNode => cases isNode
      | known known => exact (apart fresh present known).elim
      | tasks _ present' listed' =>
          cases present.symm.trans present'
          cases listed.symm.trans listed'
          exact ⟨rfl, rfl, rfl⟩
      | tasksFailed _ present' failed =>
          cases present.symm.trans present'
          cases listed.symm.trans failed
      | visit calls => exact absurd calls (by decide)
  | tasksFailed fresh present failed =>
      cases other with
      | node isNode => cases isNode
      | known known => exact (apart fresh present known).elim
      | tasks _ present' listed =>
          cases present.symm.trans present'
          cases failed.symm.trans listed
      | tasksFailed _ present' failed' =>
          cases present.symm.trans present'
          cases failed.symm.trans failed'
          exact ⟨rfl, rfl, rfl⟩
      | visit calls => exact absurd calls (by decide)
  | buildable fresh present built _ ih =>
      cases other with
      | node isNode => cases isNode
      | known known => exact (apart fresh present known).elim
      | buildable _ present' built' added' =>
          cases present.symm.trans present'
          cases built.symm.trans built'
          rcases ih added' with ⟨rfl, rfl, rfl⟩
          exact ⟨rfl, rfl, rfl⟩
      | buildFailed _ present' failed =>
          cases present.symm.trans present'
          cases built.symm.trans failed
      | visit calls => exact absurd calls (by decide)
  | buildFailed fresh present failed =>
      cases other with
      | node isNode => cases isNode
      | known known => exact (apart fresh present known).elim
      | buildable _ present' built =>
          cases present.symm.trans present'
          cases failed.symm.trans built
      | buildFailed _ present' failed' =>
          cases present.symm.trans present'
          cases failed.symm.trans failed'
          exact ⟨rfl, rfl, rfl⟩
      | visit calls => exact absurd calls (by decide)
  | visit calls fresh present _ ih =>
      cases other with
      | node isNode => cases isNode
      | known known => exact (apart fresh present known).elim
      | tasks => exact absurd calls (by decide)
      | tasksFailed => exact absurd calls (by decide)
      | buildable => exact absurd calls (by decide)
      | buildFailed => exact absurd calls (by decide)
      | visit _ _ present' visit' =>
          cases present.symm.trans present'
          rcases ih visit' with ⟨rfl, rfl, rfl⟩
          exact ⟨rfl, rfl, rfl⟩
  | ignored =>
      cases other with
      | ignored => exact ⟨rfl, rfl, rfl⟩
      | supported supported => cases supported
  | supported supported _ ih =>
      cases other with
      | ignored => cases supported
      | supported _ added' => exact ih added'
  | failure =>
      cases other with
      | failure => exact ⟨rfl, rfl, rfl⟩
  | finish =>
      cases other with
      | finish => exact ⟨rfl, rfl, rfl⟩
  | raise =>
      cases other with
      | raise => exact ⟨rfl, rfl, rfl⟩
  | add _ _ headIH tailIH =>
      cases other with
      | add head' tail' =>
          rcases headIH head' with ⟨rfl, rfl, rfl⟩
          rcases tailIH tail' with ⟨rfl, rfl, rfl⟩
          exact ⟨rfl, rfl, rfl⟩
  | maybeAdd _ _ headIH tailIH =>
      cases other with
      | maybeAdd head' tail' =>
          rcases headIH head' with ⟨rfl, rfl, rfl⟩
          rcases tailIH tail' with ⟨rfl, rfl, rfl⟩
          exact ⟨rfl, rfl, rfl⟩
  | fail _ ih =>
      cases other with
      | fail tail' =>
          rcases ih tail' with ⟨rfl, rfl, rfl⟩
          exact ⟨rfl, rfl, rfl⟩
  | declare _ ih =>
      cases other with
      | declare tail' => exact ih tail'

end Chronicle

end TaskDispatch
