import TaskDispatch.Proofs.Execution.Interleaving

/-!
# The duty of an execution

An execution of a task goes through few stages, if one looks only at what it owes the project: it
holds the lock or does not, has an action to record or has not, and knows which actions are left.
`Duty` lists these stages and `Duty.Moves` the ways from one to the next.  Every execution follows
them, because the isolated action is the last one in any class info.
-/

namespace TaskDispatch

variable {Body Parameters : Type}

/-- What an execution is at. -/
inductive Duty (Body : Type) where
  /-- The type of the task has not been looked up. -/
  | looking
  /-- The type of the task has no class info. -/
  | refused
  /-- The lock has not been taken. -/
  | waiting (left : List (ActionFactory Body))
  /-- The lock is held for the first time, and the actions that are left have not succeeded. -/
  | acting (left : List (ActionFactory Body))
  /-- The lock is held, and an action that has succeeded is recorded next. -/
  | owing (factory : ActionFactory Body) (left : List (ActionFactory Body))
  /-- The lock has been released; an isolated action may yet be created. -/
  | away (left : List (ActionFactory Body))
  /-- An isolated action has been created. -/
  | performing (typeName : String)
  /-- An isolated action is over, and the lock is taken back next. -/
  | back (typeName : String) (success : Bool)
  /-- The lock is held, and will be released without a further record. -/
  | closing

namespace Duty

/-- The ways from one duty to the next. -/
inductive Moves
    (configured : ConfiguredTask Body Parameters) :
    Duty Body → Act Body → Duty Body → Prop where
  | refuse {error : MetadataError} : Moves configured .looking (.found (.error error)) .refused
  | find
      {info : ClassInfo Body}
      (built : ClassInfo.build configured.type = .ok info) :
      Moves configured .looking (.found (.ok info)) (.waiting info.factories)
  | acquire {left : List (ActionFactory Body)} :
      Moves configured (.waiting left) .acquired (.acting left)
  | report {event : Event} {left : List (ActionFactory Body)} :
      Moves configured (.acting left) (.reported event) (.acting left)
  | read {values : Json} {typeName : String} :
      Moves configured (.acting [.isolated typeName]) (.read values)
        (.acting [.isolated typeName])
  | succeed
      {factory : ActionFactory Body}
      {method : ActionMethod Body}
      {left : List (ActionFactory Body)}
      (declared : factory.method? = some method) :
      Moves configured (.acting (factory :: left)) (.invoked method .succeeded)
        (.owing factory left)
  | fail
      {method : ActionMethod Body}
      {outcome : Outcome}
      {left : List (ActionFactory Body)}
      (unsuccessful : outcome ≠ .succeeded) :
      Moves configured (.acting left) (.invoked method outcome) .closing
  | record
      {factory : ActionFactory Body}
      {left : List (ActionFactory Body)}
      (declared : factory.isDeclared = true) :
      Moves configured (.owing factory left)
        (.recorded ⟨configured.path, factory.displayName⟩) (.acting left)
  | recordLast {typeName : String} :
      Moves configured (.owing (.isolated typeName) [])
        (.recorded
          ⟨configured.path, (ActionFactory.isolated typeName : ActionFactory Body).displayName⟩)
        .closing
  | leave {left : List (ActionFactory Body)} :
      Moves configured (.acting left) .released (.away left)
  | reportAway {event : Event} {left : List (ActionFactory Body)} :
      Moves configured (.away left) (.reported event) (.away left)
  | create {typeName : String} :
      Moves configured (.away [.isolated typeName]) (.created .succeeded) (.performing typeName)
  | notCreate
      {typeName : String}
      {outcome : Outcome}
      (unsuccessful : outcome ≠ .succeeded) :
      Moves configured (.away [.isolated typeName]) (.created outcome) (.back typeName false)
  | perform {typeName : String} :
      Moves configured (.performing typeName) (.performed .succeeded) (.back typeName true)
  | notPerform
      {typeName : String}
      {outcome : Outcome}
      (unsuccessful : outcome ≠ .succeeded) :
      Moves configured (.performing typeName) (.performed outcome) (.back typeName false)
  | comeBack {typeName : String} :
      Moves configured (.back typeName true) .acquired (.owing (.isolated typeName) [])
  | giveUp {typeName : String} :
      Moves configured (.back typeName false) .acquired .closing
  | reportClosing {event : Event} :
      Moves configured .closing (.reported event) .closing
  | close : Moves configured .closing .released (.away [])

/-- The duties with which an execution may end. -/
def Final : Duty Body → Prop
  | .refused => True
  | .away _ => True
  | _ => False

/-- A procedure follows the ways of duties. -/
abbrev Follows
    {Result : Type}
    (configured : ConfiguredTask Body Parameters)
    (duty : Duty Body)
    (procedure : Procedure Body Parameters Result) :
    Prop :=
  procedure.Follows (Moves configured) Final duty

end Duty

namespace ActionFactory

open Duty

/-- What is asked of the ways to go on after an action for the whole to follow its duty. -/
structure GoesOn
    {Result : Type}
    (configured : ConfiguredTask Body Parameters)
    (factory : ActionFactory Body)
    (left : List (ActionFactory Body))
    (next : ActionResult → Procedure Body Parameters Result) :
    Prop where
  success : Follows configured (.owing factory left) (next .succeeded)
  failure : ∀ error, Follows configured .closing (next (.failed error))
  refusal : ∀ error, Follows configured (.acting (factory :: left)) (next (.failed error))
  panic : Follows configured .closing (next .panicked)
  /-- A panic before a body is run, or an isolated action created. -/
  collapse : Follows configured (.acting (factory :: left)) (next .panicked)

theorem follows_bodyResult
    {Result : Type}
    {configured : ConfiguredTask Body Parameters}
    {factory : ActionFactory Body}
    {left : List (ActionFactory Body)}
    {next : ActionResult → Procedure Body Parameters Result}
    (goesOn : GoesOn configured factory left next)
    {method : ActionMethod Body}
    (declared : factory.method? = some method)
    (action : String)
    (outcome : Outcome) :
    ∃ after, Moves configured (.acting (factory :: left)) (.invoked method outcome) after ∧
      Follows configured after (next (bodyResult configured.path action outcome)) := by
  cases outcome with
  | succeeded => exact ⟨.owing factory left, .succeed declared, goesOn.success⟩
  | failed cause => exact ⟨.closing, .fail nofun, goesOn.failure _⟩
  | panicked => exact ⟨.closing, .fail nofun, goesOn.panic⟩

theorem follows_runUnlocked
    {Result : Type}
    {configured : ConfiguredTask Body Parameters}
    {typeName : String}
    {next : ActionResult → Procedure Body Parameters Result}
    (goesOn : GoesOn configured (.isolated typeName) [] next)
    (name : String)
    (action : IsolatedAction Parameters)
    (parameters : Parameters) :
    Follows configured (.acting [.isolated typeName])
      (runUnlocked configured.path name action parameters next) := by
  refine ⟨.away [.isolated typeName], .leave, ?_⟩
  intro created
  cases created with
  | succeeded =>
      refine ⟨.performing typeName, .create, ?_⟩
      intro performed
      cases performed with
      | succeeded =>
          exact ⟨.back typeName true, .perform, .owing (.isolated typeName) [], .comeBack,
            goesOn.success⟩
      | failed cause =>
          exact ⟨.back typeName false, .notPerform nofun, .closing, .giveUp, goesOn.failure _⟩
      | panicked =>
          exact ⟨.back typeName false, .notPerform nofun, .closing, .giveUp, goesOn.panic⟩
  | failed cause =>
      exact ⟨.back typeName false, .notCreate nofun, .closing, .giveUp, goesOn.failure _⟩
  | panicked =>
      exact ⟨.back typeName false, .notCreate nofun, .closing, .giveUp, goesOn.panic⟩

/-- Running one action follows its duty. -/
theorem follows_attempt
    {Result : Type}
    {configured : ConfiguredTask Body Parameters}
    {factory : ActionFactory Body}
    {left : List (ActionFactory Body)}
    {next : ActionResult → Procedure Body Parameters Result}
    (goesOn : GoesOn configured factory left next)
    (last : factory.isDeclared = true ∨ left = [])
    (inputs : Option IncrementalInputs) :
    Follows configured (.acting (factory :: left)) (attempt configured inputs factory next) := by
  cases factory with
  | standard typeName method =>
      intro outcome
      exact follows_bodyResult goesOn rfl _ outcome
  | incremental typeName method =>
      cases inputs with
      | none => exact goesOn.refusal _
      | some inputs =>
          intro outcome
          exact follows_bodyResult goesOn rfl _ outcome
  | isolated typeName =>
      rcases last with declared | rfl
      · cases declared
      unfold attempt
      cases configured.parameters with
      | none => exact goesOn.refusal _
      | some parameters =>
          intro values
          refine ⟨.acting [.isolated typeName], .read, ?_⟩
          dsimp only
          cases parameters.action.materialize values with
          | refused cause => exact goesOn.refusal _
          | panicked => exact goesOn.collapse
          | decoded materialized =>
              exact ⟨.acting [.isolated typeName], .report,
                follows_runUnlocked goesOn _ parameters.action materialized⟩

end ActionFactory

namespace Executer

open Duty

/-- Running the actions that are left follows their duty. -/
theorem follows_runActions
    (configured : ConfiguredTask Body Parameters)
    (inputs : Option IncrementalInputs)
    (incremental : Bool)
    (done : List String)
    {left : List (ActionFactory Body)}
    (isolatedLast : IsolatedLast left) :
    Follows configured (.acting left) (runActions configured inputs incremental done left) := by
  induction left generalizing done with
  | nil => exact ⟨.away [], .leave, .away [], .reportAway, trivial⟩
  | cons factory left ih =>
      rcases isolatedLast with ⟨last, remaining⟩
      refine ⟨.acting (factory :: left), .report, ?_⟩
      apply ActionFactory.follows_attempt _ last
      constructor
      -- After the record of an isolated action nothing is left but to release the lock.
      · rcases last with declared | rfl
        · exact ⟨.acting left, .record declared, ih _ remaining⟩
        · cases factory with
          | standard typeName method => exact ⟨.acting [], .record rfl, ih _ remaining⟩
          | incremental typeName method => exact ⟨.acting [], .record rfl, ih _ remaining⟩
          | isolated typeName =>
              exact ⟨.closing, .recordLast, .away [], .close, .away [], .reportAway, trivial⟩
      · intro error
        exact ⟨.closing, .reportClosing, .away [], .close, trivial⟩
      · intro error
        exact ⟨.acting (factory :: left), .report, .away (factory :: left), .leave, trivial⟩
      · exact ⟨.away [], .close, trivial⟩
      · exact ⟨.away (factory :: left), .leave, trivial⟩

end Executer

/-- An execution follows its duty. -/
theorem Execution.follows_procedure (execution : Execution Body Parameters) :
    Duty.Follows execution.configured .looking execution.procedure := by
  unfold Duty.Follows Execution.procedure Executer.execute Procedure.Follows
  cases built : ClassInfo.build execution.configured.type with
  | error error => exact ⟨.refused, .refuse, trivial⟩
  | ok info =>
      exact ⟨.waiting info.factories, .find built, .acting info.factories, .acquire,
        Executer.follows_runActions _ _ _ _ (ClassInfo.isolatedLast_of_build built)⟩

end TaskDispatch
