import Mathlib.Data.List.Nodup
import Mathlib.Data.List.Perm.Subperm
import TaskDispatch.Proofs.Resolution.Walk

/-!
# Each contributor is visited once

The moments of a walk tell when a contributor is presented, when its visit begins and when it ends.
In the moments of any sequence of calls a visit begins directly after the first presentation of its
contributor, under the shape of that presentation, and at no other time.  As no contributor is
visited twice, no more visits are nested in each other than there are contributors.

`Orderly` is the invariant: it reads moments from left to right and keeps the contributors entered
so far.  The main statement is `visits_exactly_once`.
-/

namespace TaskDispatch

namespace Moment

/-- The contributor that is presented at a moment, with its shape. -/
def presentation? : Moment → Option (Shape × ContributorId)
  | .presented shape place _ => some (shape, place)
  | _ => none

/-- The contributors presented. -/
def presentedPlaces (moments : List Moment) : List ContributorId :=
  (moments.filterMap presentation?).map Prod.snd

/-- The contributors entered. -/
def enteredPlaces (moments : List Moment) : List ContributorId := (entries moments).map Prod.snd

/-- The contributors whose visits are in progress, the innermost first, after those in progress
before. -/
def inProgress : List ContributorId → List Moment → List ContributorId
  | visits, [] => visits
  | visits, .presented _ _ _ :: moments => inProgress visits moments
  | visits, .entered _ place :: moments => inProgress (place :: visits) moments
  | visits, .left _ :: moments => inProgress visits.tail moments

theorem enteredPlaces_append (earlier later : List Moment) :
    enteredPlaces (earlier ++ later) = enteredPlaces earlier ++ enteredPlaces later := by
  simp [enteredPlaces]

@[simp]
theorem mem_presentedPlaces_cons (place : ContributorId) (moment : Moment) (moments : List Moment) :
    place ∈ presentedPlaces (moment :: moments) ↔
      (∃ shape retained, moment = .presented shape place retained) ∨
        place ∈ presentedPlaces moments := by
  cases moment <;> simp [presentedPlaces, presentation?, eq_comm]

theorem mem_presentedPlaces_append (place : ContributorId) (earlier later : List Moment) :
    place ∈ presentedPlaces (earlier ++ later) ↔
      place ∈ presentedPlaces earlier ∨ place ∈ presentedPlaces later := by
  simp [presentedPlaces]

@[simp]
theorem not_mem_presentedPlaces_nil (place : ContributorId) : place ∉ presentedPlaces [] := by
  simp [presentedPlaces]

theorem length_inProgress_le (visits : List ContributorId) (moments : List Moment) :
    (inProgress visits moments).length ≤ visits.length + (enteredPlaces moments).length := by
  induction moments generalizing visits with
  | nil => simp [inProgress]
  | cons moment moments ih =>
      cases moment with
      | presented shape place retained => exact ih visits
      | entered shape place =>
          have nested := ih (place :: visits)
          simp only [inProgress, enteredPlaces, entries_entered, List.map_cons,
            List.length_cons] at nested ⊢
          omega
      | left place =>
          have outer := ih visits.tail
          simp only [inProgress, enteredPlaces, entries_left, List.length_tail] at outer ⊢
          omega

end Moment

open Moment

/-- True of moments in which a contributor of a table of this size is entered directly after it is
presented if it has not been entered before, and never else.  The first list holds the contributors
entered before, the last one those entered in the end. -/
inductive Orderly (size : Nat) : List ContributorId → List Moment → List ContributorId → Prop where
  | done {seen : List ContributorId} : Orderly size seen [] seen
  | again {seen after : List ContributorId} {shape : Shape} {place : ContributorId}
      {retained : List (Shape × ContributorId)} {moments : List Moment}
      (held : retained.map Prod.snd = seen)
      (known : place ∈ seen ∨ size ≤ place)
      (rest : Orderly size seen moments after) :
      Orderly size seen (.presented shape place retained :: moments) after
  | first {seen after : List ContributorId} {shape : Shape} {place : ContributorId}
      {retained : List (Shape × ContributorId)} {moments : List Moment}
      (held : retained.map Prod.snd = seen)
      (fresh : place ∉ seen)
      (present : place < size)
      (rest : Orderly size (seen ++ [place]) moments after) :
      Orderly size seen (.presented shape place retained :: .entered shape place :: moments) after
  | left {seen after : List ContributorId} {place : ContributorId} {moments : List Moment}
      (rest : Orderly size seen moments after) :
      Orderly size seen (.left place :: moments) after

namespace Orderly

variable {size : Nat} {seen middle after : List ContributorId} {moments : List Moment}

theorem append
    {later : List Moment}
    (head : Orderly size seen moments middle)
    (tail : Orderly size middle later after) :
    Orderly size seen (moments ++ later) after := by
  induction head with
  | done => exact tail
  | again held known _ ih => exact .again held known (ih tail)
  | first held fresh present _ ih => exact .first held fresh present (ih tail)
  | left _ ih => exact .left (ih tail)

theorem after_eq (orderly : Orderly size seen moments after) :
    after = seen ++ enteredPlaces moments := by
  induction orderly with
  | done => simp [enteredPlaces]
  | again _ _ _ ih => exact ih
  | first _ _ _ _ ih => simpa [enteredPlaces] using ih
  | left _ ih => exact ih

theorem nodup (orderly : Orderly size seen moments after) (distinct : seen.Nodup) :
    after.Nodup := by
  induction orderly with
  | done => exact distinct
  | again _ _ _ ih => exact ih distinct
  | first _ fresh _ _ ih =>
      apply ih
      rw [← List.concat_eq_append]
      exact distinct.concat fresh
  | left _ ih => exact ih distinct

theorem lt_size
    (orderly : Orderly size seen moments after)
    (bounded : ∀ place ∈ seen, place < size) :
    ∀ place ∈ after, place < size := by
  induction orderly with
  | done => exact bounded
  | again _ _ _ ih => exact ih bounded
  | first _ _ present _ ih =>
      apply ih
      intro other member
      rcases List.mem_append.mp member with old | new
      · exact bounded other old
      · rw [List.mem_singleton.mp new]
        exact present
  | left _ ih => exact ih bounded

theorem mem_of_presented
    {place : ContributorId}
    (orderly : Orderly size seen moments after)
    (presented : place ∈ presentedPlaces moments)
    (present : place < size) :
    place ∈ after := by
  induction orderly with
  | done => exact (not_mem_presentedPlaces_nil place presented).elim
  | again _ known rest ih =>
      rcases (mem_presentedPlaces_cons _ _ _).mp presented with ⟨shape, retained, here⟩ | later
      · cases here
        rcases known with old | absent
        · rw [rest.after_eq]
          exact List.mem_append_left _ old
        · exact (Nat.not_lt.mpr absent present).elim
      · exact ih later
  | first _ _ _ rest ih =>
      rcases (mem_presentedPlaces_cons _ _ _).mp presented with ⟨shape, retained, here⟩ | later
      · cases here
        rw [rest.after_eq]
        simp
      · rcases (mem_presentedPlaces_cons _ _ _).mp later with ⟨shape, retained, here⟩ | later
        · cases here
        · exact ih later
  | left _ ih =>
      rcases (mem_presentedPlaces_cons _ _ _).mp presented with ⟨shape, retained, here⟩ | later
      · cases here
      · exact ih later

/-- A contributor presented for the first time is entered next, under the same shape. -/
theorem entered_of_first_presented
    {earlier later : List Moment}
    {shape : Shape}
    {place : ContributorId}
    {retained : List (Shape × ContributorId)}
    (orderly : Orderly size seen moments after)
    (split : moments = earlier ++ .presented shape place retained :: later)
    (present : place < size)
    (unseen : place ∉ seen)
    (unpresented : place ∉ presentedPlaces earlier) :
    ∃ rest, later = .entered shape place :: rest := by
  induction orderly generalizing earlier with
  | done => simp at split
  | again _ known _ ih =>
      cases earlier with
      | nil =>
          cases split
          rcases known with old | absent
          · exact (unseen old).elim
          · exact (Nat.not_lt.mpr absent present).elim
      | cons moment earlier =>
          cases split
          rw [mem_presentedPlaces_cons, not_or] at unpresented
          exact ih rfl unseen unpresented.2
  | @first _ _ shape' place' retained' moments _ fresh _ _ ih =>
      cases earlier with
      | nil =>
          cases split
          exact ⟨moments, rfl⟩
      | cons moment earlier =>
          rw [List.cons_append, List.cons.injEq] at split
          rcases split with ⟨rfl, split⟩
          cases earlier with
          | nil => cases split
          | cons moment earlier =>
              cases split
              simp only [mem_presentedPlaces_cons, not_or] at unpresented
              rcases unpresented with ⟨different, -, unpresented⟩
              apply ih rfl _ unpresented
              intro member
              rcases List.mem_append.mp member with old | new
              · exact unseen old
              · exact different ⟨shape', retained', by rw [List.mem_singleton.mp new]⟩
  | left _ ih =>
      cases earlier with
      | nil => cases split
      | cons moment earlier =>
          cases split
          rw [mem_presentedPlaces_cons, not_or] at unpresented
          exact ih rfl unseen unpresented.2

/-- A visit begins only directly after the first presentation of its contributor. -/
theorem first_presented_of_entered
    {earlier later : List Moment}
    {shape : Shape}
    {place : ContributorId}
    (orderly : Orderly size seen moments after)
    (split : moments = earlier ++ .entered shape place :: later) :
    place < size ∧ place ∉ seen ∧
      ∃ before,
        (∃ retained, earlier = before ++ [.presented shape place retained]) ∧
          place ∉ presentedPlaces before := by
  induction orderly generalizing earlier with
  | done => simp at split
  | again _ known _ ih =>
      cases earlier with
      | nil => cases split
      | cons moment earlier =>
          cases split
          rcases ih rfl with ⟨present, unseen, before, ⟨retained, rfl⟩, unpresented⟩
          refine ⟨present, unseen, _ :: before, ⟨retained, rfl⟩, ?_⟩
          rw [mem_presentedPlaces_cons, not_or]
          refine ⟨?_, unpresented⟩
          rintro ⟨shape, retained, here⟩
          cases here
          rcases known with old | absent
          · exact unseen old
          · exact Nat.not_lt.mpr absent present
  | first _ fresh inTable _ ih =>
      cases earlier with
      | nil => cases split
      | cons moment earlier =>
          rw [List.cons_append, List.cons.injEq] at split
          rcases split with ⟨rfl, split⟩
          cases earlier with
          | nil =>
              cases split
              exact ⟨inTable, fresh, [], ⟨_, rfl⟩, not_mem_presentedPlaces_nil _⟩
          | cons moment earlier =>
              cases split
              rcases ih rfl with ⟨present, unseen, before, ⟨retained, rfl⟩, unpresented⟩
              rw [List.mem_append, not_or] at unseen
              refine ⟨present, unseen.1, _ :: _ :: before, ⟨retained, rfl⟩, ?_⟩
              simp only [mem_presentedPlaces_cons, not_or]
              refine ⟨?_, ?_, unpresented⟩
              · rintro ⟨shape, retained, here⟩
                cases here
                exact unseen.2 (List.mem_singleton_self _)
              · rintro ⟨shape, retained, here⟩
                cases here
  | left _ ih =>
      cases earlier with
      | nil => cases split
      | cons moment earlier =>
          cases split
          rcases ih rfl with ⟨present, unseen, before, ⟨retained, rfl⟩, unpresented⟩
          refine ⟨present, unseen, _ :: before, ⟨retained, rfl⟩, ?_⟩
          rw [mem_presentedPlaces_cons, not_or]
          refine ⟨?_, unpresented⟩
          rintro ⟨shape, retained, here⟩
          cases here

/-- What is entered at any time has been presented before. -/
theorem mem_presentedPlaces_of_entered
    {earlier later : List Moment}
    {place : ContributorId}
    (orderly : Orderly size seen moments after)
    (split : moments = earlier ++ later)
    (entered : place ∈ enteredPlaces earlier) :
    place ∈ presentedPlaces earlier := by
  rcases List.mem_map.mp entered with ⟨⟨shape, place⟩, entry, rfl⟩
  rcases List.mem_filterMap.mp entry with ⟨moment, member, isEntry⟩
  have isEntered : moment = .entered shape place := by
    cases moment with
    | entered shape' place' => cases isEntry; rfl
    | presented shape' place' retained => cases isEntry
    | left place' => cases isEntry
  rcases List.append_of_mem member with ⟨before, rest, rfl⟩
  rw [isEntered, List.append_assoc, List.cons_append] at split
  rcases (orderly.first_presented_of_entered split).2.2 with ⟨before, ⟨retained, rfl⟩, -⟩
  rw [mem_presentedPlaces_append, mem_presentedPlaces_append]
  exact Or.inl (Or.inr ((mem_presentedPlaces_cons _ _ _).mpr (Or.inl ⟨shape, retained, rfl⟩)))

/-- What is retained when a contributor is presented has been entered before. -/
theorem before_presented
    {earlier later : List Moment}
    {shape : Shape}
    {place : ContributorId}
    {retained : List (Shape × ContributorId)}
    (orderly : Orderly size seen moments after)
    (split : moments = earlier ++ .presented shape place retained :: later) :
    Orderly size seen earlier (retained.map Prod.snd) := by
  induction orderly generalizing earlier with
  | done => simp at split
  | again held known _ ih =>
      cases earlier with
      | nil =>
          cases split
          exact held ▸ .done
      | cons moment earlier =>
          cases split
          exact .again held known (ih rfl)
  | first held fresh present _ ih =>
      cases earlier with
      | nil =>
          cases split
          exact held ▸ .done
      | cons moment earlier =>
          rw [List.cons_append, List.cons.injEq] at split
          rcases split with ⟨rfl, split⟩
          cases earlier with
          | nil => cases split
          | cons moment earlier =>
              cases split
              exact .first held fresh present (ih rfl)
  | left _ ih =>
      cases earlier with
      | nil => cases split
      | cons moment earlier =>
          cases split
          exact .left (ih rfl)

theorem retained_eq
    {earlier later : List Moment}
    {shape : Shape}
    {place : ContributorId}
    {retained : List (Shape × ContributorId)}
    (orderly : Orderly size [] moments after)
    (split : moments = earlier ++ .presented shape place retained :: later) :
    retained.map Prod.snd = enteredPlaces earlier := by
  rw [(orderly.before_presented split).after_eq, List.nil_append]

/-- When a contributor is presented it is among those retained exactly if it has been presented
before. -/
theorem mem_retained_iff
    {earlier later : List Moment}
    {shape : Shape}
    {place : ContributorId}
    {retained : List (Shape × ContributorId)}
    (orderly : Orderly size [] moments after)
    (split : moments = earlier ++ .presented shape place retained :: later)
    (present : place < size) :
    place ∈ retained.map Prod.snd ↔ place ∈ presentedPlaces earlier := by
  constructor
  · intro held
    rw [orderly.retained_eq split] at held
    exact orderly.mem_presentedPlaces_of_entered split held
  · intro presented
    exact (orderly.before_presented split).mem_of_presented presented present

end Orderly

/-! ## The moments of calls -/

section Calls

variable {contributors : Contributors} {context after : Context} {moments : List Moment}

theorem Walk.map_retained
    {errand : Errand}
    {result : AddResult}
    (walk : Walk contributors context errand moments after result)
    (held : context.retained.map Prod.snd = context.visited) :
    after.retained.map Prod.snd = after.visited := by
  rw [walk.retained, walk.visited, List.map_append, held]

/-- The moments of a walk are orderly if those retained are those visited. -/
theorem Walk.orderly
    {errand : Errand}
    {result : AddResult}
    (walk : Walk contributors context errand moments after result)
    (held : context.retained.map Prod.snd = context.visited) :
    Orderly contributors.length context.visited moments after.visited := by
  induction walk with
  | node => simpa using Orderly.done
  | foreign => exact .done
  | @known context _ place known =>
      rw [context.hasVisited_iff] at known
      exact .again held known .done
  | @first context _ _ place _ _ _ fresh present _ visitIH =>
      have unseen : place ∉ context.visited := by
        rw [← context.hasVisited_iff, fresh]
        exact Bool.false_ne_true
      have inTable := (List.getElem?_eq_some_iff.mp present).1
      exact .first held unseen inTable ((visitIH (by simp [held])).append (.left .done))
  | ignored => exact .done
  | supported _ _ walkIH => exact walkIH held
  | failure => exact .done
  | finish => exact .done
  | raise => exact .done
  | add head _ headIH tailIH => exact (headIH held).append (tailIH (head.map_retained held))
  | maybeAdd head _ headIH tailIH => exact (headIH held).append (tailIH (head.map_retained held))
  | fail _ tailIH => exact tailIH held
  | declare _ tailIH => exact tailIH held

theorem Walk.presented
    {call : ContextCall}
    {result : AddResult}
    {shape : Shape}
    {place : ContributorId}
    (walk : Walk contributors context (.call call) moments after result)
    (handsOver : call.declaration? = some (.contributor shape place)) :
    ∃ later, moments = .presented shape place context.retained :: later := by
  have ofAdd {declaration : Declaration}
      (isContributor : declaration = .contributor shape place)
      (walk : Walk contributors context (.call (.add declaration)) moments after result) :
      ∃ later, moments = .presented shape place context.retained :: later := by
    subst isContributor
    cases walk with
    | node isNode => cases isNode
    | known => exact ⟨_, rfl⟩
    | first => exact ⟨_, rfl⟩
  cases call with
  | add declaration => exact ofAdd (Option.some.inj handsOver) walk
  | maybeAdd declaration =>
      cases walk with
      | ignored => cases handsOver
      | supported _ walk => exact ofAdd (Option.some.inj handsOver) walk
  | fail cause => cases handsOver

namespace Walks

variable {calls : List ContextCall}

theorem orderly
    (walks : Walks contributors context calls moments after)
    (held : context.retained.map Prod.snd = context.visited) :
    Orderly contributors.length context.visited moments after.visited := by
  induction walks with
  | done => exact .done
  | call head _ tailIH => exact (head.orderly held).append (tailIH (head.map_retained held))

theorem retained (walks : Walks contributors context calls moments after) :
    after.retained = context.retained ++ entries moments := by
  induction walks with
  | done => simp
  | call head _ tailIH => simp [tailIH, head.retained]

theorem mem_presentedPlaces
    {call : ContextCall}
    {shape : Shape}
    {place : ContributorId}
    (walks : Walks contributors context calls moments after)
    (member : call ∈ calls)
    (handsOver : call.declaration? = some (.contributor shape place)) :
    place ∈ presentedPlaces moments := by
  induction walks with
  | done => cases member
  | call head _ tailIH =>
      rw [mem_presentedPlaces_append]
      rcases List.mem_cons.mp member with rfl | member
      · rcases head.presented handsOver with ⟨later, rfl⟩
        exact Or.inl ((mem_presentedPlaces_cons _ _ _).mpr (Or.inl ⟨shape, _, rfl⟩))
      · exact Or.inr (tailIH member)

/-- Calls on a context leave no choice. -/
theorem deterministic
    {after' : Context}
    {moments' : List Moment}
    (walks : Walks contributors context calls moments after)
    (other : Walks contributors context calls moments' after') :
    moments = moments' ∧ after = after' := by
  induction walks generalizing moments' after' with
  | done =>
      cases other with
      | done => exact ⟨rfl, rfl⟩
  | call head _ tailIH =>
      cases other with
      | call head' tail' =>
          rcases head.deterministic head' with ⟨rfl, rfl, rfl⟩
          rcases tailIH tail' with ⟨rfl, rfl⟩
          exact ⟨rfl, rfl⟩

end Walks

end Calls

/-- What is true of the moments of every sequence of calls on a fresh context. -/
structure VisitedOnce (contributors : Contributors) (moments : List Moment) : Prop where
  /-- A contributor that is presented is entered exactly once in all. -/
  once :
    ∀ place, place < contributors.length →
      (enteredPlaces moments).count place = if place ∈ presentedPlaces moments then 1 else 0
  /-- It is entered as soon as it is presented for the first time, under the shape it is presented
  with. -/
  atOnce :
    ∀ earlier shape place retained later,
      moments = earlier ++ .presented shape place retained :: later →
      place < contributors.length →
      place ∉ presentedPlaces earlier →
      ∃ rest, later = .entered shape place :: rest
  /-- No visit begins at another time. -/
  onlyThen :
    ∀ earlier shape place later,
      moments = earlier ++ .entered shape place :: later →
      ∃ before,
        (∃ retained, earlier = before ++ [.presented shape place retained]) ∧
          place ∉ presentedPlaces before
  /-- What is retained at any time are the contributors entered until then. -/
  held :
    ∀ earlier shape place retained later,
      moments = earlier ++ .presented shape place retained :: later →
      retained.map Prod.snd = enteredPlaces earlier
  /-- At no time are more visits in progress than there are contributors. -/
  shallow :
    ∀ earlier later,
      moments = earlier ++ later → (inProgress [] earlier).length ≤ contributors.length

/-- True of addresses that are not reused for what is retained: whenever a contributor is presented,
its address tells it from the others that the context retains at that moment. -/
def TellApart (address : ContributorId → Nat) (moments : List Moment) : Prop :=
  ∀ shape place retained,
    .presented shape place retained ∈ moments →
      ∀ other ∈ retained.map Prod.snd, address other = address place → other = place

/-- Orderly moments enter each contributor once. -/
theorem Orderly.visitedOnce
    {contributors : Contributors}
    {moments : List Moment}
    {after : List ContributorId}
    (orderly : Orderly contributors.length [] moments after) :
    VisitedOnce contributors moments := by
  have entered : after = enteredPlaces moments := by simpa using orderly.after_eq
  have distinct : (enteredPlaces moments).Nodup := entered ▸ orderly.nodup List.nodup_nil
  have bounded : ∀ place ∈ enteredPlaces moments, place < contributors.length := by
    rw [← entered]
    exact orderly.lt_size (by simp)
  constructor
  · intro place present
    split
    · next presented =>
        have member := orderly.mem_of_presented presented present
        rw [entered] at member
        exact List.count_eq_one_of_mem distinct member
    · next unpresented =>
        apply List.count_eq_zero.mpr
        intro member
        exact unpresented (orderly.mem_presentedPlaces_of_entered (List.append_nil _).symm member)
  · intro earlier shape place retained later split present unpresented
    exact orderly.entered_of_first_presented split present List.not_mem_nil unpresented
  · intro earlier shape place later split
    exact (orderly.first_presented_of_entered split).2.2
  · intro earlier shape place retained later split
    exact orderly.retained_eq split
  · intro earlier later split
    have sublist : (enteredPlaces earlier).Sublist (enteredPlaces moments) := by
      rw [split, enteredPlaces_append]
      exact List.sublist_append_left _ _
    have within : enteredPlaces earlier ⊆ List.range contributors.length := by
      intro place member
      exact List.mem_range.mpr (bounded place (sublist.subset member))
    have few := (List.subperm_of_subset (sublist.nodup distinct) within).length_le
    have nested := length_inProgress_le [] earlier
    rw [List.length_range] at few
    simp only [List.length_nil, Nat.zero_add] at nested
    exact Nat.le_trans nested few

/-- Addresses that tell a contributor from those retained decide rightly whether it has been
presented before. -/
theorem Orderly.address_mem_iff
    {size : Nat}
    {moments earlier later : List Moment}
    {after : List ContributorId}
    {address : ContributorId → Nat}
    {shape : Shape}
    {place : ContributorId}
    {retained : List (Shape × ContributorId)}
    (orderly : Orderly size [] moments after)
    (tellApart : TellApart address moments)
    (split : moments = earlier ++ .presented shape place retained :: later)
    (present : place < size) :
    address place ∈ (retained.map Prod.snd).map address ↔ place ∈ presentedPlaces earlier := by
  have presented : .presented shape place retained ∈ moments := by
    rw [split]
    exact List.mem_append_right _ List.mem_cons_self
  rw [← orderly.mem_retained_iff split present]
  constructor
  · intro member
    rcases List.mem_map.mp member with ⟨other, held, same⟩
    rw [← tellApart shape place retained presented other held same]
    exact held
  · intro held
    exact List.mem_map_of_mem held

/-- Every sequence of calls on a fresh context comes to an end, whatever the contributors do, and in
one way only; each contributor that is handed over is visited exactly once, as soon as it is first
presented; and the contributors visited are those retained.  Deciding by the addresses of those
retained whether a contributor has been visited is therefore right. -/
theorem visits_exactly_once
    (contributors : Contributors)
    (owner : Option Task)
    (calls : List ContextCall) :
    ∃ moments after,
      (Context.fresh owner).performAll contributors calls = after ∧
      (∀ moments' after',
        Walks contributors (.fresh owner) calls moments' after' ↔
          moments' = moments ∧ after' = after) ∧
      VisitedOnce contributors moments ∧
      (∀ call ∈ calls, ∀ shape place,
        call.declaration? = some (.contributor shape place) → place < contributors.length →
          place ∈ presentedPlaces moments ∧ after.visited.count place = 1) ∧
      after.retained = entries moments ∧
      after.visited = after.retained.map Prod.snd ∧
      ∀ address, TellApart address moments →
        ∀ earlier shape place retained later,
          moments = earlier ++ .presented shape place retained :: later →
            place < contributors.length →
              (address place ∈ (retained.map Prod.snd).map address ↔
                place ∈ presentedPlaces earlier) := by
  rcases Context.walks_performAll contributors (.fresh owner) calls with ⟨moments, walks⟩
  have orderly : Orderly contributors.length [] moments _ := walks.orderly rfl
  have retained : _ = entries moments := walks.retained.trans (List.nil_append _)
  have visited := orderly.after_eq.trans (List.nil_append _)
  have visitedOnce := orderly.visitedOnce
  refine ⟨moments, _, rfl, ?_, visitedOnce, ?_, retained, ?_, ?_⟩
  · intro moments' after'
    constructor
    · exact fun other => other.deterministic walks
    · rintro ⟨rfl, rfl⟩
      exact walks
  · intro call member shape place handsOver present
    have presented := walks.mem_presentedPlaces member handsOver
    refine ⟨presented, ?_⟩
    rw [visited, visitedOnce.once place present, if_pos presented]
  · rw [visited, retained]
    rfl
  · intro address tellApart earlier shape place retained later split present
    exact orderly.address_mem_iff tellApart split present

end TaskDispatch
