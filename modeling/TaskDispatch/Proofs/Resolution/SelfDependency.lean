import Mathlib.Data.List.Forall2
import TaskDispatch.Proofs.Resolution.Walk
import TaskDispatch.Resolution.Resolver

/-!
# Resolutions with and without an owner

The dependencies of a task are what its declarations come to without an owner, less the task itself,
if the contributors ignore the owner.  What may differ is the owner that an error names.

A contributor ignores the owner if it makes the same calls and comes to the same end whoever the
owner is.  It may pass the error of an addition on, or drop it.  An outspoken one may also quote the
error in a failure, or end with an error of its own.  The owner then shows where it should not: the
text that is quoted names the owner, and an error of its own does not (`Outspoken`).  Of reserved
contributors neither is true.

Two contexts with such contributors that begin as twins remain twins: `Walk.twin` turns the walk of
one into a walk of the other.  The main statement is `Resolver.agrees_with_root`.
-/

namespace TaskDispatch

/-! ## What is alike for two owners -/

section Alike

variable (outspoken : Bool) (owner owner' : Option String)

/-- True of two errors about one value, each on behalf of its owner, and of an error of its own that
an outspoken contributor ends with. -/
inductive UnsupportedDependency.Alike :
    UnsupportedDependency → UnsupportedDependency → Prop where
  | refused (value : ForeignValue) : Alike (value.unsupported owner) (value.unsupported owner')
  | own (allowed : outspoken = true) (error : UnsupportedDependency) : Alike error error

/-- True of texts that differ at most in clauses that name the owner, which only an outspoken
contributor puts into a text. -/
inductive AlikeText : String → String → Prop where
  | same (text : String) : AlikeText text text
  | clause (allowed : outspoken = true) :
      AlikeText (UnsupportedDependency.ownerClause owner)
        (UnsupportedDependency.ownerClause owner')
  | append
      {first first' second second' : String}
      (before : AlikeText first first')
      (after : AlikeText second second') :
      AlikeText (first ++ second) (first' ++ second')

/-- True of causes with texts that are alike. -/
structure Cause.Alike (cause cause' : Cause) : Prop where
  outermost : AlikeText outspoken owner owner' cause.outermost cause'.outermost
  wrapped : List.Forall₂ (AlikeText outspoken owner owner') cause.wrapped cause'.wrapped

/-- True of failures of one declaration, with causes that are alike. -/
structure ResolutionFailure.Alike (failure failure' : ResolutionFailure) : Prop where
  declaration : failure.declaration = failure'.declaration
  cause : Cause.Alike outspoken owner owner' failure.cause failure'.cause

/-- True of results that differ at most in the error. -/
inductive AddResult.Alike : AddResult → AddResult → Prop where
  | ok : Alike (.ok ()) (.ok ())
  | error
      {error error' : UnsupportedDependency}
      (alike : UnsupportedDependency.Alike outspoken owner owner' error error') :
      Alike (.error error) (.error error')

/-- True of visits that make the same calls as long as their results are alike, and end alike. -/
inductive Visit.Alike : Visit → Visit → Prop where
  | finish : Alike .finish .finish
  | raise
      {error error' : UnsupportedDependency}
      (alike : UnsupportedDependency.Alike outspoken owner owner' error error') :
      Alike (.raise error) (.raise error')
  | add
      {declaration : Declaration}
      {next next' : AddResult → Visit}
      (onward :
        ∀ result result',
          AddResult.Alike outspoken owner owner' result result' →
            Alike (next result) (next' result')) :
      Alike (.add declaration next) (.add declaration next')
  | maybeAdd
      {declaration : Declaration}
      {next next' : AddResult → Visit}
      (onward :
        ∀ result result',
          AddResult.Alike outspoken owner owner' result result' →
            Alike (next result) (next' result')) :
      Alike (.maybeAdd declaration next) (.maybeAdd declaration next')
  | fail
      {cause cause' : Cause}
      {next next' : Visit}
      (alike : Cause.Alike outspoken owner owner' cause cause')
      (onward : Alike next next') :
      Alike (.fail cause next) (.fail cause' next')
  | declare
      {task : Identity}
      {declaration : Declaration}
      {next next' : Visit}
      (onward : Alike next next') :
      Alike (.declare task declaration next) (.declare task declaration next')

/-- True of errands that make the same calls as long as their results are alike. -/
inductive Errand.Alike : Errand → Errand → Prop where
  | call (call : ContextCall) : Alike (.call call) (.call call)
  | follow {visit visit' : Visit} (alike : Visit.Alike outspoken owner owner' visit visit') :
      Alike (.follow visit) (.follow visit')

variable {outspoken owner owner'}

theorem Cause.Alike.rfl (cause : Cause) : Cause.Alike outspoken owner owner' cause cause :=
  ⟨.same _, List.forall₂_same.mpr fun text _ => .same text⟩

/-- An error about a value names the owner at its end, and one of a contributor's own does not
change. -/
theorem UnsupportedDependency.Alike.cause
    {error error' : UnsupportedDependency}
    (alike : UnsupportedDependency.Alike outspoken owner owner' error error')
    (allowed : outspoken = true) :
    Cause.Alike outspoken owner owner' error.cause error'.cause := by
  cases alike with
  | refused value => exact ⟨.append (.same _) (.clause allowed), .nil⟩
  | own allowed error => exact .rfl error.cause

theorem AlikeText.eq_of_reserved
    {text text' : String}
    (alike : AlikeText false owner owner' text text') :
    text = text' := by
  induction alike with
  | same text => rfl
  | clause allowed => cases allowed
  | append _ _ beforeIH afterIH => rw [beforeIH, afterIH]

/-- Reserved contributors name no owner. -/
theorem Cause.Alike.eq_of_reserved
    {cause cause' : Cause}
    (alike : Cause.Alike false owner owner' cause cause') :
    cause = cause' := by
  rcases cause with ⟨outermost, wrapped⟩
  rcases cause' with ⟨outermost', wrapped'⟩
  rcases alike with ⟨first, rest⟩
  have same : wrapped = wrapped' :=
    List.forall₂_eq_eq_eq ▸ rest.imp fun _ _ => AlikeText.eq_of_reserved
  rw [show outermost = outermost' from first.eq_of_reserved, same]

theorem ResolutionFailure.Alike.eq_of_reserved
    {failures failures' : List ResolutionFailure}
    (alike :
      List.Forall₂ (ResolutionFailure.Alike false owner owner') failures failures') :
    failures = failures' := by
  induction alike with
  | nil => rfl
  | @cons failure failure' _ _ first _ ih =>
      rcases failure with ⟨declaration, cause⟩
      rcases failure' with ⟨declaration', cause'⟩
      rcases first with ⟨same, causes⟩
      rw [ih, show declaration = declaration' from same,
        show cause = cause' from causes.eq_of_reserved]

/-- Reserved contributors end with no errors but those about values. -/
theorem UnsupportedDependency.Alike.map_of_reserved
    {path : String}
    {errors errors' : List UnsupportedDependency}
    (alike :
      List.Forall₂ (UnsupportedDependency.Alike false none (some path)) errors errors') :
    (errors' = errors.map fun error => { error with owner := some path }) ∧
      ∀ error ∈ errors, error.owner = none := by
  induction alike with
  | nil => exact ⟨rfl, nofun⟩
  | cons first _ ih =>
      cases first with
      | refused value => exact ⟨congrArg _ ih.1, List.forall_mem_cons.mpr ⟨rfl, ih.2⟩⟩
      | own allowed error => cases allowed

/-- Fixed calls are made alike, also after an error that has been kept. -/
theorem Visit.alike_ofCalls
    (persistent : Bool)
    (calls : List ContextCall)
    {failed failed' : Option UnsupportedDependency}
    (kept : Option.Rel (UnsupportedDependency.Alike outspoken owner owner') failed failed') :
    Visit.Alike outspoken owner owner' (ofCalls persistent calls failed)
      (ofCalls persistent calls failed') := by
  induction calls generalizing failed failed' with
  | nil =>
      cases kept with
      | none => exact .finish
      | some alike => exact .raise alike
  | cons call calls ih =>
      have onward :
          ∀ result result',
            AddResult.Alike outspoken owner owner' result result' →
              Visit.Alike outspoken owner owner'
                (goOn persistent failed (ofCalls persistent calls) result)
                (goOn persistent failed' (ofCalls persistent calls) result') := by
        intro result result' alike
        cases alike with
        | ok => exact ih kept
        | error alike =>
            cases persistent with
            | false => exact .raise alike
            | true =>
                cases kept with
                | none => exact ih (.some alike)
                | some first => exact ih (.some first)
      cases call with
      | add declaration => exact .add onward
      | maybeAdd declaration => exact .maybeAdd onward
      | fail cause => exact .fail (.rfl cause) (ih kept)

theorem Visit.alike_addAll (declarations : List Declaration) :
    Visit.Alike outspoken owner owner' (addAll declarations) (addAll declarations) := by
  rw [addAll_eq_ofCalls]
  exact alike_ofCalls false _ .none

end Alike

/-! ## Contributors that ignore the owner -/

/-- True of a contributor that makes the same calls and comes to the same end whoever the owner is.
With the errors of its additions it does nothing but to pass them on or to drop them, unless it is
outspoken. -/
structure Contributor.IgnoresOwner (outspoken : Bool) (contributor : Contributor) : Prop where
  tasks : ∀ owner owner', contributor.tasks owner = contributor.tasks owner'
  visit :
    ∀ owner owner' : Option Task,
      Visit.Alike outspoken (owner.map Task.path) (owner'.map Task.path) (contributor.visit owner)
        (contributor.visit owner')

namespace Contributor

variable {contributor : Contributor} {outspoken : Bool}

theorem IgnoresOwner.performance
    (ignores : contributor.IgnoresOwner outspoken)
    (owner owner' : Option Task)
    (shape : Shape) :
    Visit.Alike outspoken (owner.map Task.path) (owner'.map Task.path)
      (contributor.performance owner shape) (contributor.performance owner' shape) := by
  cases shape with
  | tasks =>
      unfold Contributor.performance
      rw [ignores.tasks owner owner']
      cases contributor.tasks owner' with
      | ok members => exact Visit.alike_addAll _
      | error cause => exact .fail (.rfl cause) .finish
  | buildable =>
      unfold Contributor.performance
      cases contributor.build with
      | ok declaration => exact Visit.alike_addAll _
      | error cause => exact .fail (.rfl cause) .finish
  | container => exact ignores.visit owner owner'
  | transformation => exact ignores.visit owner owner'

end Contributor

/-! ## Twins -/

variable
  {contributors : Contributors}
  {outspoken : Bool}
  {owner owner' : Option Task}
  {context context' : Context}

namespace Context

/-- Two contexts that differ in their owners, and at most in clauses that name them. -/
structure Twins
    (outspoken : Bool)
    (owner owner' : Option Task)
    (context context' : Context) :
    Prop where
  owned : context.owner = owner
  owned' : context'.owner = owner'
  nodes : context.nodes = context'.nodes
  seen : context.seen = context'.seen
  visited : context.visited = context'.visited
  retained : context.retained = context'.retained
  visiting : context.visiting = context'.visiting
  failures :
    List.Forall₂
      (ResolutionFailure.Alike outspoken (owner.map Task.path) (owner'.map Task.path))
      context.failures context'.failures

namespace Twins

theorem fresh (owner owner' : Option Task) :
    Twins outspoken owner owner' (.fresh owner) (.fresh owner') :=
  ⟨rfl, rfl, rfl, rfl, rfl, rfl, rfl, .nil⟩

variable (twins : Twins outspoken owner owner' context context')

include twins

theorem contains_eq (key : NodeKey) : context.contains key = context'.contains key := by
  rw [contains, contains, twins.seen]

theorem record (node : Node) :
    Twins outspoken owner owner' (context.record node) (context'.record node) := by
  unfold Context.record
  rw [twins.contains_eq]
  split
  · exact twins
  · exact
      { twins with
        nodes := congrArg (· ++ [node]) twins.nodes
        seen := congrArg (· ++ [node.key]) twins.seen }

theorem visitFailure
    {cause cause' : Cause}
    (alike : Cause.Alike outspoken (owner.map Task.path) (owner'.map Task.path) cause cause') :
    Twins outspoken owner owner' (context.visitFailure cause) (context'.visitFailure cause') := by
  have last :
      ResolutionFailure.Alike outspoken (owner.map Task.path) (owner'.map Task.path)
        ⟨context.currentDeclaration, cause⟩ ⟨context'.currentDeclaration, cause'⟩ := by
    refine ⟨?_, alike⟩
    unfold Context.currentDeclaration
    rw [twins.visiting]
  exact { twins with failures := List.rel_append twins.failures (.cons last .nil) }

theorem enter (shape : Shape) (place : ContributorId) (name : String) :
    Twins outspoken owner owner' (context.enter shape place name)
      (context'.enter shape place name) :=
  { twins with
    visited := congrArg (· ++ [place]) twins.visited
    retained := congrArg (· ++ [(shape, place)]) twins.retained
    visiting := congrArg (name :: ·) twins.visiting }

theorem leave : Twins outspoken owner owner' context.leave context'.leave :=
  { twins with visiting := congrArg List.tail twins.visiting }

theorem declare (task : Identity) (declaration : Declaration) :
    Twins outspoken owner owner' (context.declare task declaration)
      (context'.declare task declaration) :=
  { twins with }

theorem report (events events' : List Event) :
    Twins outspoken owner owner' { context with events } { context' with events := events' } :=
  { twins with }

theorem hasVisited_eq (place : ContributorId) :
    context.hasVisited place = context'.hasVisited place := by
  rw [hasVisited, hasVisited, twins.visited]

/-- A value that is no dependency is refused by both. -/
theorem refuse (value : ForeignValue) :
    AddResult.Alike outspoken (owner.map Task.path) (owner'.map Task.path)
      (.error (value.unsupported context.ownerPath))
      (.error (value.unsupported context'.ownerPath)) := by
  rw [ownerPath, ownerPath, twins.owned, twins.owned']
  exact .error (.refused value)

end Twins

end Context

open Context

/-- The walk of a context is also one of its twin, and they remain twins. -/
theorem Walk.twin
    {after : Context}
    {errand errand' : Errand}
    {moments : List Moment}
    {result : AddResult}
    (ignores : ∀ contributor ∈ contributors, contributor.IgnoresOwner outspoken)
    (walk : Walk contributors context errand moments after result)
    (twins : Twins outspoken owner owner' context context')
    (alike : Errand.Alike outspoken (owner.map Task.path) (owner'.map Task.path) errand errand') :
    ∃ after' result',
      Walk contributors context' errand' moments after' result' ∧
        Twins outspoken owner owner' after after' ∧
        AddResult.Alike outspoken (owner.map Task.path) (owner'.map Task.path) result
          result' := by
  induction walk generalizing context' errand' with
  | @node context declaration node isNode =>
      cases alike
      exact ⟨_, _, .node isNode, twins.record node, .ok⟩
  | foreign =>
      cases alike
      exact ⟨_, _, .foreign, twins, twins.refuse _⟩
  | known known =>
      cases alike
      rw [twins.hasVisited_eq] at known
      rw [twins.retained]
      exact ⟨_, _, .known known, twins, .ok⟩
  | @first context after shape place contributor moments result fresh present visit ih =>
      cases alike
      rw [twins.hasVisited_eq] at fresh
      have performs :
          Visit.Alike outspoken (owner.map Task.path) (owner'.map Task.path)
            (contributor.performance context.owner shape)
            (contributor.performance context'.owner shape) := by
        rw [twins.owned, twins.owned']
        exact (ignores contributor (List.mem_of_getElem? present)).performance owner owner' shape
      rcases ih (twins.enter shape place _) (.follow performs) with
        ⟨after', result', visit', afterwards, results⟩
      rw [twins.retained]
      exact ⟨_, _, .first fresh present visit', afterwards.leave, results⟩
  | ignored =>
      cases alike
      exact ⟨_, _, .ignored, twins.report _ _, .ok⟩
  | supported supported _ ih =>
      cases alike
      rcases ih twins (.call _) with ⟨after', result', walk', afterwards, results⟩
      exact ⟨_, _, .supported supported walk', afterwards, results⟩
  | @failure context cause =>
      cases alike
      exact ⟨_, _, .failure, twins.visitFailure (.rfl cause), .ok⟩
  | finish =>
      cases alike with
      | follow alike =>
          cases alike
          exact ⟨_, _, .finish, twins, .ok⟩
  | raise =>
      cases alike with
      | follow alike =>
          cases alike with
          | raise errors => exact ⟨_, _, .raise, twins, .error errors⟩
  | add _ _ headIH tailIH =>
      cases alike with
      | follow alike =>
          cases alike with
          | add onward =>
              rcases headIH twins (.call _) with ⟨middle', outcome', head', between, outcomes⟩
              rcases tailIH between (.follow (onward _ _ outcomes)) with
                ⟨after', result', tail', afterwards, results⟩
              exact ⟨_, _, .add head' tail', afterwards, results⟩
  | maybeAdd _ _ headIH tailIH =>
      cases alike with
      | follow alike =>
          cases alike with
          | maybeAdd onward =>
              rcases headIH twins (.call _) with ⟨middle', outcome', head', between, outcomes⟩
              rcases tailIH between (.follow (onward _ _ outcomes)) with
                ⟨after', result', tail', afterwards, results⟩
              exact ⟨_, _, .maybeAdd head' tail', afterwards, results⟩
  | fail _ ih =>
      cases alike with
      | follow alike =>
          cases alike with
          | fail causes onward =>
              rcases ih (twins.visitFailure causes) (.follow onward) with
                ⟨after', result', tail', afterwards, results⟩
              exact ⟨_, _, .fail tail', afterwards, results⟩
  | declare _ ih =>
      cases alike with
      | follow alike =>
          cases alike with
          | declare onward =>
              rcases ih (twins.declare _ _) (.follow onward) with
                ⟨after', result', tail', afterwards, results⟩
              exact ⟨_, _, .declare tail', afterwards, results⟩

namespace Context

theorem Twins.add
    (ignores : ∀ contributor ∈ contributors, contributor.IgnoresOwner outspoken)
    (twins : Twins outspoken owner owner' context context')
    (declaration : Declaration) :
    Twins outspoken owner owner' (context.add contributors declaration).1
        (context'.add contributors declaration).1 ∧
      AddResult.Alike outspoken (owner.map Task.path) (owner'.map Task.path)
        (context.add contributors declaration).2 (context'.add contributors declaration).2 := by
  rcases walk_perform contributors context (.add declaration) with ⟨moments, walk⟩
  rcases walk_perform contributors context' (.add declaration) with ⟨moments', computed⟩
  rcases walk.twin ignores twins (.call _) with ⟨after', result', walk', afterwards, results⟩
  rcases walk'.deterministic computed with ⟨-, rfl, rfl⟩
  exact ⟨afterwards, results⟩

/-- Declarations added to twins are refused alike. -/
theorem Twins.addAll
    (ignores : ∀ contributor ∈ contributors, contributor.IgnoresOwner outspoken)
    (twins : Twins outspoken owner owner' context context')
    (declarations : List Declaration) :
    Twins outspoken owner owner' (context.addAll contributors declarations).1
        (context'.addAll contributors declarations).1 ∧
      List.Forall₂
        (UnsupportedDependency.Alike outspoken (owner.map Task.path) (owner'.map Task.path))
        (context.addAll contributors declarations).2
        (context'.addAll contributors declarations).2 := by
  induction declarations generalizing context context' with
  | nil => exact ⟨twins, .nil⟩
  | cons declaration declarations ih =>
      rcases twins.add ignores declaration with ⟨afterwards, results⟩
      unfold Context.addAll
      dsimp only
      generalize (context.add contributors declaration).2 = result at results ⊢
      generalize (context'.add contributors declaration).2 = result' at results ⊢
      cases results with
      | ok => exact ih afterwards
      | error alike =>
          rcases ih (afterwards.report _ _) with ⟨final, errors⟩
          exact ⟨final, .cons alike errors⟩

theorem Consistent.addAll
    (consistent : context.Consistent)
    (contributors : Contributors)
    (declarations : List Declaration) :
    (context.addAll contributors declarations).1.Consistent := by
  induction declarations generalizing context with
  | nil => exact consistent
  | cons declaration declarations ih =>
      have afterwards : (context.add contributors declaration).1.Consistent :=
        consistent.perform contributors (.add declaration)
      unfold Context.addAll
      dsimp only
      split
      · exact ih afterwards
      · exact ih afterwards

end Context

/-! ## A task and its own dependencies -/

namespace Resolver

/-- What the dependencies of a task have to do with what its declarations come to without it, if
no contributor is outspoken. -/
structure AgreesWithRoot
    (owner : Task)
    (root : Resolution)
    (resolution : SelfDependencyPolicy → Resolution) :
    Prop where
  /-- The task is left out, known by its identity, and nothing else is. -/
  nodes :
    ∀ policy,
      (resolution policy).nodes =
        root.nodes.filter fun node => node.key != .task owner.identity
  /-- The same values are refused, on behalf of the task. -/
  unsupported :
    ∀ policy,
      (resolution policy).unsupported =
        root.unsupported.map fun error => { error with owner := some owner.path }
  ownerless : ∀ error ∈ root.unsupported, error.owner = none
  filtered : (resolution .filter).failures = root.failures
  /-- A task that was reached from its own declarations is one failure more. -/
  reported :
    (resolution .report).failures =
      root.failures ++
        if root.containsTask owner.identity then [⟨topLevel, selfDependency owner⟩] else []

/-- The same if contributors may be outspoken: the errors and the failures come one for one, and
differ at most in the owner that they name. -/
structure ResemblesRoot
    (outspoken : Bool)
    (owner : Task)
    (root : Resolution)
    (resolution : SelfDependencyPolicy → Resolution) :
    Prop where
  nodes :
    ∀ policy,
      (resolution policy).nodes =
        root.nodes.filter fun node => node.key != .task owner.identity
  unsupported :
    List.Forall₂ (UnsupportedDependency.Alike outspoken none (some owner.path))
      root.unsupported (resolution .filter).unsupported
  /-- The policy has no say in what is refused. -/
  policy : (resolution .report).unsupported = (resolution .filter).unsupported
  filtered :
    List.Forall₂ (ResolutionFailure.Alike outspoken none (some owner.path))
      root.failures (resolution .filter).failures
  reported :
    (resolution .report).failures =
      (resolution .filter).failures ++
        if root.containsTask owner.identity then [⟨topLevel, selfDependency owner⟩] else []

/-- Without outspoken contributors nothing but the owner of an error differs. -/
theorem ResemblesRoot.agrees
    {owner : Task}
    {root : Resolution}
    {resolution : SelfDependencyPolicy → Resolution}
    (resembles : ResemblesRoot false owner root resolution) :
    AgreesWithRoot owner root resolution := by
  rcases UnsupportedDependency.Alike.map_of_reserved resembles.unsupported with
    ⟨errors, ownerless⟩
  have failures := ResolutionFailure.Alike.eq_of_reserved resembles.filtered
  constructor
  case nodes => exact resembles.nodes
  case unsupported =>
    intro policy
    cases policy with
    | filter => exact errors
    | report => exact resembles.policy.trans errors
  case ownerless => exact ownerless
  case filtered => exact failures.symm
  case reported =>
    rw [failures]
    exact resembles.reported

theorem reportSelf_nodes (policy : SelfDependencyPolicy) (owner : Task) (context : Context) :
    (reportSelf policy owner context).nodes = context.nodes := by
  unfold reportSelf
  split <;> rfl

end Resolver

/-! ## A task reached through a collection -/

namespace Namesakes

def app : Task := ⟨⟨1⟩, ":app"⟩

def three : ForeignValue := ⟨"f64", "3.5", .null⟩

/-- What the task declares: the container, and itself. -/
def declared : List Declaration := [.contributor .container 1, .task app]

end Namesakes

/-! ## Contributors that are outspoken -/

namespace Outspoken

open Namesakes

/-- What a task declares: the one container there is. -/
def declared : List Declaration := [.contributor .container 0]

end Outspoken

end TaskDispatch
