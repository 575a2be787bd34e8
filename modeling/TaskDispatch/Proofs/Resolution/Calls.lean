import Mathlib.Logic.Relation
import TaskDispatch.Resolution.Context

/-!
# Calls on a context

Whoever uses a context, be it the owner of the context or a contributor in the middle of its visit,
makes calls of three kinds.  What a contributor does under any shape comes to a `Visit`, that is, to
such calls; `Contributor.performance` is this visit.

One call prompts another if it adds a contributor and the contributor may make the other.  `Reaches`
is the reflexive and transitive closure of prompting: it says what is reachable from a declaration
without saying anything of the order of a walk, or of what has been visited.  The declared
dependencies of a task are not reached from the task, because adding a task prompts no call.

A contributor that returns the first error of its calls may return it at once, or keep it until it
has made the calls that are left.  `Contributor.MakesCalls` admits both ways, because what is
reachable, and which calls are answered with an error, does not depend on which of them it is.  What
the context holds after an error does depend on it, so what is said of that is said of visits that
stop at once, `Visit.PassesErrorsOn`.
-/

namespace TaskDispatch

/-- A call made on a context. -/
inductive ContextCall where
  | add (declaration : Declaration)
  | maybeAdd (declaration : Declaration)
  | fail (cause : Cause)

/-- The declaration that a call hands over. -/
def ContextCall.declaration? : ContextCall → Option Declaration
  | .add declaration => some declaration
  | .maybeAdd declaration => some declaration
  | .fail _ => none

namespace Context

/-- Makes a call. -/
def perform
    (contributors : Contributors)
    (context : Context) :
    ContextCall → Context × AddResult
  | .add declaration => context.add contributors declaration
  | .maybeAdd declaration => context.maybeAdd contributors declaration
  | .fail cause => (context.visitFailure cause, .ok ())

/-- Makes calls in order, whatever comes of each. -/
def performAll
    (contributors : Contributors)
    (context : Context)
    (calls : List ContextCall) :
    Context :=
  calls.foldl (fun context call => (context.perform contributors call).1) context

@[simp]
theorem performAll_nil (contributors : Contributors) (context : Context) :
    context.performAll contributors [] = context := rfl

@[simp]
theorem performAll_cons
    (contributors : Contributors)
    (context : Context)
    (call : ContextCall)
    (calls : List ContextCall) :
    context.performAll contributors (call :: calls) =
      (context.perform contributors call).1.performAll contributors calls := rfl

theorem performAll_append
    (contributors : Contributors)
    (context : Context)
    (earlier later : List ContextCall) :
    context.performAll contributors (earlier ++ later) =
      (context.performAll contributors earlier).performAll contributors later := by
  simp [performAll, List.foldl_append]

end Context

/-! ## Visits made of a list of calls -/

namespace Visit

/-- True of every call that a visit may come to make, whatever the outcomes of the calls before. -/
def Mentions (call : ContextCall) : Visit → Prop
  | .finish => False
  | .raise _ => False
  | .add declaration next =>
      call = .add declaration ∨ ∃ result, (next result).Mentions call
  | .maybeAdd declaration next =>
      call = .maybeAdd declaration ∨ ∃ result, (next result).Mentions call
  | .fail cause next => call = .fail cause ∨ next.Mentions call
  | .declare _ _ next => next.Mentions call

/-- Goes on after a success; after a failure ends with it, or goes on if the visit is persistent,
and then the first failure so far is kept. -/
def goOn
    (persistent : Bool)
    (failed : Option UnsupportedDependency)
    (rest : Option UnsupportedDependency → Visit) :
    AddResult → Visit
  | .ok _ => rest failed
  | .error error => if persistent then rest (failed.or (some error)) else .raise error

/-- Makes the calls of a list in order and ends with the first error: at once, or, if the visit is
persistent, after the calls that are left. -/
def ofCalls (persistent : Bool) : List ContextCall → Option UnsupportedDependency → Visit
  | [], none => .finish
  | [], some error => .raise error
  | .add declaration :: calls, failed =>
      .add declaration (goOn persistent failed (ofCalls persistent calls))
  | .maybeAdd declaration :: calls, failed =>
      .maybeAdd declaration (goOn persistent failed (ofCalls persistent calls))
  | .fail cause :: calls, failed => .fail cause (ofCalls persistent calls failed)

theorem goOn_false
    (rest : Option UnsupportedDependency → Visit) :
    goOn false none rest = orRaise (rest none) := by
  funext result
  cases result <;> rfl

/-- Adding declarations up to the first error is a visit of this form. -/
theorem addAll_eq_ofCalls (declarations : List Declaration) :
    addAll declarations = ofCalls false (declarations.map .add) none := by
  induction declarations with
  | nil => rfl
  | cons declaration declarations ih =>
      rw [addAll, ih, List.map_cons, ofCalls, goOn_false]

theorem mem_of_mentions_goOn
    {persistent : Bool}
    {failed : Option UnsupportedDependency}
    {rest : Option UnsupportedDependency → Visit}
    {result : AddResult}
    {call : ContextCall}
    (mentioned : (goOn persistent failed rest result).Mentions call) :
    ∃ failed, (rest failed).Mentions call := by
  cases result with
  | ok _ => exact ⟨failed, mentioned⟩
  | error error =>
      cases persistent with
      | true => exact ⟨failed.or (some error), mentioned⟩
      | false => exact mentioned.elim

theorem mentions_ofCalls
    (persistent : Bool)
    (calls : List ContextCall)
    (failed : Option UnsupportedDependency)
    (call : ContextCall) :
    (ofCalls persistent calls failed).Mentions call ↔ call ∈ calls := by
  induction calls generalizing failed with
  | nil => cases failed <;> simp [ofCalls, Mentions]
  | cons first calls ih =>
      have onward :
          (∃ result,
              (goOn persistent failed (ofCalls persistent calls) result).Mentions call) ↔
            call ∈ calls := by
        constructor
        · rintro ⟨result, mentioned⟩
          rcases mem_of_mentions_goOn mentioned with ⟨failed, mentioned⟩
          exact (ih failed).mp mentioned
        · intro member
          exact ⟨.ok (), (ih failed).mpr member⟩
      cases first with
      | add declaration => rw [ofCalls, Mentions, onward, List.mem_cons]
      | maybeAdd declaration => rw [ofCalls, Mentions, onward, List.mem_cons]
      | fail cause => rw [ofCalls, Mentions, ih, List.mem_cons]

end Visit

/-! ## What contributors do, as visits -/

namespace Contributor

/-- What a contributor does under a shape, as the calls it comes to. -/
def performance (contributor : Contributor) (owner : Option Task) : Shape → Visit
  | .tasks =>
      match contributor.tasks owner with
      | .ok members => .addAll (members.map .task)
      | .error cause => .fail cause .finish
  | .buildable =>
      match contributor.build with
      | .ok declaration => .addAll [declaration]
      | .error cause => .fail cause .finish
  | .container => contributor.visit owner
  | .transformation => contributor.visit owner

/-- True of a contributor that, as a container or a transformation, makes a fixed list of calls and
ends with the first error of a call, at once or after the calls that are left. -/
def MakesCalls (owner : Option Task) (contributor : Contributor) : Prop :=
  ∃ persistent calls, contributor.visit owner = .ofCalls persistent calls none

/-- Such a contributor makes a fixed list of calls under every shape. -/
theorem MakesCalls.performance
    {owner : Option Task}
    {contributor : Contributor}
    (makesCalls : contributor.MakesCalls owner)
    (shape : Shape) :
    ∃ persistent calls,
      contributor.performance owner shape = .ofCalls persistent calls none := by
  cases shape with
  | tasks =>
      unfold Contributor.performance
      cases contributor.tasks owner with
      | ok members =>
          exact ⟨false, _, Visit.addAll_eq_ofCalls _⟩
      | error cause => exact ⟨false, [.fail cause], rfl⟩
  | buildable =>
      unfold Contributor.performance
      cases contributor.build with
      | ok declaration =>
          exact ⟨false, _, Visit.addAll_eq_ofCalls _⟩
      | error cause => exact ⟨false, [.fail cause], rfl⟩
  | container => exact makesCalls
  | transformation => exact makesCalls

end Contributor

/-! ## Reachability -/

namespace ContextCall

/-- The calls that a call may lead to directly. -/
inductive Prompts (contributors : Contributors) (owner : Option Task) :
    ContextCall → ContextCall → Prop where
  /-- What can be a dependency is added, also if it need not be one. -/
  | supported {declaration : Declaration}
      (supported : declaration.isSupported = true) :
      Prompts contributors owner (.maybeAdd declaration) (.add declaration)
  /-- A contributor that is added may make its calls. -/
  | visit {shape : Shape} {place : ContributorId} {contributor : Contributor}
      {call : ContextCall}
      (present : contributors[place]? = some contributor)
      (mentioned : (contributor.performance owner shape).Mentions call) :
      Prompts contributors owner (.add (.contributor shape place)) call

/-- True if a call may lead to the other, at once or through contributors. -/
def Reaches
    (contributors : Contributors)
    (owner : Option Task) :
    ContextCall → ContextCall → Prop :=
  Relation.ReflTransGen (Prompts contributors owner)

/-- True if one of the calls may lead to the other. -/
def ReachedFrom
    (contributors : Contributors)
    (owner : Option Task)
    (calls : List ContextCall)
    (other : ContextCall) :
    Prop :=
  ∃ call ∈ calls, Reaches contributors owner call other

/-- True if a call may lead to the addition of a task or a work action. -/
def ReachesNode
    (contributors : Contributors)
    (owner : Option Task)
    (call : ContextCall)
    (node : Node) :
    Prop :=
  ∃ declaration,
    Reaches contributors owner call (.add declaration) ∧ declaration.node? = some node

/-- True if a call leads to no addition of a value that is no dependency. -/
def Clean
    (contributors : Contributors)
    (owner : Option Task)
    (call : ContextCall) :
    Prop :=
  ∀ value, ¬ Reaches contributors owner call (.add (.other value))

/-- A set of calls that holds whatever its calls prompt. -/
def Closed
    (contributors : Contributors)
    (owner : Option Task)
    (within : ContextCall → Prop) :
    Prop :=
  ∀ call other, within call → Prompts contributors owner call other → within other

section Reachability

variable {contributors : Contributors} {owner : Option Task} {call other : ContextCall}

theorem Clean.of_reaches
    (clean : call.Clean contributors owner)
    (reaches : call.Reaches contributors owner other) :
    other.Clean contributors owner := by
  intro value onward
  exact clean value (reaches.trans onward)

theorem Closed.of_reaches
    {within : ContextCall → Prop}
    (closed : Closed contributors owner within)
    (reaches : call.Reaches contributors owner other)
    (member : within call) :
    within other := by
  induction reaches with
  | refl => exact member
  | tail _ prompts ih => exact closed _ _ ih prompts

theorem closed_reachedFrom
    (contributors : Contributors)
    (owner : Option Task)
    (calls : List ContextCall) :
    Closed contributors owner (ReachedFrom contributors owner calls) := by
  rintro _ _ ⟨first, member, reaches⟩ prompts
  exact ⟨first, member, reaches.tail prompts⟩

theorem reachedFrom_of_mem
    (contributors : Contributors)
    (owner : Option Task)
    (calls : List ContextCall) :
    ∀ call ∈ calls, ReachedFrom contributors owner calls call :=
  fun call member => ⟨call, member, .refl⟩

end Reachability

end ContextCall

end TaskDispatch
