import TaskDispatch.Proofs.Execution.Duty

/-!
# What an execution has recorded

The duty of an execution tells what its records are: the actions that have succeeded, in the order
of the class info, up to the one that is owed.  `Accounts` says so, and `Accounts.move` and
`Accounts.record` that it stays so along the ways of duties.
-/

namespace TaskDispatch

variable {Body Parameters : Type}

namespace Duty

/-- True if the lock is held. -/
def Holds : Duty Body → Prop
  | .acting _ => True
  | .owing _ _ => True
  | .closing => True
  | _ => False

/-- True if the lock has been held. -/
def Entered : Duty Body → Prop
  | .looking => False
  | .refused => False
  | .waiting _ => False
  | _ => True

/-- True if the lock is held for the first time and declared actions may be recorded. -/
def FirstHold : Duty Body → Prop
  | .acting _ => True
  | .owing factory _ => factory.isDeclared = true
  | _ => False

/-- The action that has succeeded and is not recorded, if there is one. -/
def pending : Duty Body → List (ActionFactory Body)
  | .owing factory _ => [factory]
  | _ => []

/-- The actions that may yet succeed, of those of the whole execution. -/
def ahead (factories : List (ActionFactory Body)) : Duty Body → List (ActionFactory Body)
  | .looking => factories
  | .waiting left => left
  | .acting left => left
  | .owing _ left => left
  | .away left => left
  | .performing typeName => [.isolated typeName]
  | .back typeName _ => [.isolated typeName]
  | .refused => []
  | .closing => []

/-- True if an isolated action has been run with success and the lock is taken back next. -/
def returning : Duty Body → Bool
  | .back _ success => success
  | _ => false

section Moves

variable {configured : ConfiguredTask Body Parameters} {duty after : Duty Body} {act : Act Body}

theorem FirstHold.holds (first : duty.FirstHold) : duty.Holds := by
  cases duty with
  | acting left => trivial
  | owing factory left => trivial
  | _ => exact first.elim

theorem Moves.holds_of_acquired (moves : Moves configured duty .acquired after) :
    after.Holds := by
  cases moves with
  | acquire => trivial
  | comeBack => trivial
  | giveUp => trivial

/-- Whoever takes the lock does not hold it. -/
theorem Moves.not_holds_of_acquired (moves : Moves configured duty .acquired after) :
    ¬ duty.Holds := by
  cases moves with
  | acquire => exact id
  | comeBack => exact id
  | giveUp => exact id

theorem Moves.holds_of_released (moves : Moves configured duty .released after) :
    duty.Holds ∧ ¬ after.Holds := by
  cases moves with
  | leave => exact ⟨trivial, id⟩
  | close => exact ⟨trivial, id⟩

/-- The lock changes hands only when it is taken or released. -/
theorem Moves.holds_iff
    (moves : Moves configured duty act after)
    (notAcquired : act ≠ .acquired)
    (notReleased : act ≠ .released) :
    after.Holds ↔ duty.Holds := by
  cases moves with
  | acquire => exact absurd rfl notAcquired
  | comeBack => exact absurd rfl notAcquired
  | giveUp => exact absurd rfl notAcquired
  | leave => exact absurd rfl notReleased
  | close => exact absurd rfl notReleased
  | _ => exact Iff.rfl

theorem Moves.entered_of_acquired (moves : Moves configured duty .acquired after) :
    after.Entered := by
  cases moves with
  | acquire => trivial
  | comeBack => trivial
  | giveUp => trivial

theorem Moves.entered_iff
    (moves : Moves configured duty act after)
    (notAcquired : act ≠ .acquired) :
    after.Entered ↔ duty.Entered := by
  cases moves with
  | acquire => exact absurd rfl notAcquired
  | comeBack => exact absurd rfl notAcquired
  | giveUp => exact absurd rfl notAcquired
  | _ => exact Iff.rfl

/-- A worker that takes the lock back records no declared action. -/
theorem Moves.not_entered_of_firstHold
    (moves : Moves configured duty .acquired after)
    (first : after.FirstHold) :
    ¬ duty.Entered := by
  cases moves with
  | acquire => exact id
  | comeBack => cases first
  | giveUp => exact first.elim

theorem Moves.firstHold
    (moves : Moves configured duty act after)
    (notAcquired : act ≠ .acquired)
    (first : after.FirstHold) :
    duty.FirstHold := by
  cases moves with
  | acquire => exact absurd rfl notAcquired
  | comeBack => exact absurd rfl notAcquired
  | report => trivial
  | read => trivial
  | succeed declared => trivial
  | record declared => exact declared
  | _ => exact first.elim

theorem Moves.record_cases
    {entry : CompletedAction}
    (moves : Moves configured duty (.recorded entry) after) :
    ∃ factory left,
      duty = .owing factory left ∧
      entry = ⟨configured.path, factory.displayName⟩ ∧
      (after = .acting left ∨ left = [] ∧ after = .closing) := by
  cases moves with
  | record declared => exact ⟨_, _, rfl, rfl, .inl rfl⟩
  | recordLast => exact ⟨_, _, rfl, rfl, .inr ⟨rfl, rfl⟩⟩

end Moves

/-- True if the records of an execution and what its acts have achieved are what its duty says. -/
structure Accounts
    (factories recorded : List (ActionFactory Body))
    (achievement : Achievement Body)
    (duty : Duty Body) :
    Prop where
  inOrder : recorded ++ duty.pending ++ duty.ahead factories <+: factories
  succeeded : achievement.succeeded = (recorded ++ duty.pending).map ActionFactory.method?
  returning : achievement.returning = duty.returning
  unrecorded : ¬ duty.Entered → recorded = []

namespace Accounts

variable {execution : Execution Body Parameters} {recorded : List (ActionFactory Body)}
variable {achievement : Achievement Body} {duty after : Duty Body} {act : Act Body}

theorem start (execution : Execution Body Parameters) :
    Accounts execution.factories [] .nothing .looking := by
  constructor
  · exact List.prefix_refl _
  · rfl
  · rfl
  · intro _
    rfl

/-- A user's failure achieves nothing. -/
theorem after_invoked_of_ne
    {method : ActionMethod Body}
    {outcome : Outcome}
    (unsuccessful : outcome ≠ .succeeded) :
    achievement.after (.invoked method outcome) = achievement := by
  cases outcome with
  | succeeded => exact absurd rfl unsuccessful
  | failed cause => rfl
  | panicked => rfl

theorem after_performed_of_ne
    {outcome : Outcome}
    (unsuccessful : outcome ≠ .succeeded) :
    achievement.after (.performed outcome) = achievement := by
  cases outcome with
  | succeeded => exact absurd rfl unsuccessful
  | failed cause => rfl
  | panicked => rfl

/-- Accounts survive a step that leaves the achievement and what is pending alone. -/
theorem quiet
    (accounts : Accounts execution.factories recorded achievement duty)
    (same : achievement.after act = achievement)
    (pending : after.pending = duty.pending)
    (ahead : after.ahead execution.factories <+: duty.ahead execution.factories)
    (returning : after.returning = duty.returning)
    (entered : after.Entered ∨ ¬ duty.Entered) :
    Accounts execution.factories recorded (achievement.after act) after := by
  rw [same]
  constructor
  · rw [pending]
    exact ((List.prefix_append_right_inj _).mpr ahead).trans accounts.inOrder
  · rw [pending]
    exact accounts.succeeded
  · rw [returning]
    exact accounts.returning
  · intro outside
    rcases entered with inside | before
    · exact absurd inside outside
    · exact accounts.unrecorded before

/-- Accounts survive every step but a record. -/
theorem move
    (accounts : Accounts execution.factories recorded achievement duty)
    (moves : Moves execution.configured duty act after)
    (notRecorded : ∀ entry, act ≠ .recorded entry) :
    Accounts execution.factories recorded (achievement.after act) after := by
  cases moves with
  | refuse =>
      exact accounts.quiet rfl rfl List.nil_prefix rfl (.inr id)
  | @find info built =>
      have found : execution.factories = info.factories := by
        unfold Execution.factories
        rw [built]
      have untouched : info.factories <+: execution.factories := by
        simp only [found, List.prefix_refl]
      exact accounts.quiet rfl rfl untouched rfl (.inr id)
  | acquire =>
      have notReturning : achievement.returning = false := accounts.returning
      have same : achievement.after .acquired = achievement := by
        simp [Achievement.after, notReturning]
      exact accounts.quiet same rfl (List.prefix_refl _) rfl (.inl trivial)
  | report =>
      exact accounts.quiet rfl rfl (List.prefix_refl _) rfl (.inl trivial)
  | read =>
      exact accounts.quiet rfl rfl (List.prefix_refl _) rfl (.inl trivial)
  | @succeed factory method left declared =>
      rcases accounts with ⟨inOrder, succeeded, returning, -⟩
      simp only [pending, ahead, List.append_nil] at inOrder succeeded
      constructor
      · simpa [pending, ahead] using inOrder
      · simp [Achievement.after, succeeded, pending, declared]
      · exact returning
      · exact fun outside => (outside trivial).elim
  | fail unsuccessful =>
      exact accounts.quiet (after_invoked_of_ne unsuccessful) rfl List.nil_prefix rfl
        (.inl trivial)
  | record declared => exact absurd rfl (notRecorded _)
  | recordLast => exact absurd rfl (notRecorded _)
  | leave =>
      exact accounts.quiet rfl rfl (List.prefix_refl _) rfl (.inl trivial)
  | reportAway =>
      exact accounts.quiet rfl rfl (List.prefix_refl _) rfl (.inl trivial)
  | create =>
      exact accounts.quiet rfl rfl (List.prefix_refl _) rfl (.inl trivial)
  | notCreate unsuccessful =>
      exact accounts.quiet rfl rfl (List.prefix_refl _) rfl (.inl trivial)
  | perform =>
      rcases accounts with ⟨inOrder, succeeded, -, -⟩
      exact ⟨inOrder, succeeded, rfl, fun outside => (outside trivial).elim⟩
  | notPerform unsuccessful =>
      exact accounts.quiet (after_performed_of_ne unsuccessful) rfl (List.prefix_refl _) rfl
        (.inl trivial)
  | comeBack =>
      -- The isolated action, which is the last one, has succeeded now that the lock is held again.
      rcases accounts with ⟨inOrder, succeeded, returning, -⟩
      have isReturning : achievement.returning = true := returning
      simp only [pending, ahead, List.append_nil] at inOrder succeeded
      constructor
      · simpa [pending, ahead] using inOrder
      · simp [Achievement.after, isReturning, succeeded, pending, ActionFactory.method?]
      · simp [Achievement.after, isReturning, Duty.returning]
      · exact fun outside => (outside trivial).elim
  | giveUp =>
      have notReturning : achievement.returning = false := accounts.returning
      have same : achievement.after .acquired = achievement := by
        simp [Achievement.after, notReturning]
      exact accounts.quiet same rfl List.nil_prefix rfl (.inl trivial)
  | reportClosing =>
      exact accounts.quiet rfl rfl (List.prefix_refl _) rfl (.inl trivial)
  | close =>
      exact accounts.quiet rfl rfl (List.prefix_refl _) rfl (.inl trivial)

/-- A record takes over what was pending. -/
theorem record
    {factory : ActionFactory Body}
    {left : List (ActionFactory Body)}
    {entry : CompletedAction}
    (accounts : Accounts execution.factories recorded achievement (.owing factory left))
    (settled : after = .acting left ∨ left = [] ∧ after = .closing) :
    Accounts execution.factories (recorded ++ [factory])
      (achievement.after (.recorded entry)) after := by
  rcases accounts with ⟨inOrder, succeeded, returning, -⟩
  simp only [pending, ahead] at inOrder succeeded
  rcases settled with rfl | ⟨rfl, rfl⟩
  · constructor
    · simpa [pending, ahead] using inOrder
    · simpa [pending, Achievement.after] using succeeded
    · exact returning
    · exact fun outside => (outside trivial).elim
  · constructor
    · simpa [pending, ahead] using inOrder
    · simpa [pending, Achievement.after] using succeeded
    · exact returning
    · exact fun outside => (outside trivial).elim

end Accounts

theorem Follows.holds_of_invoke
    {configured target : ConfiguredTask Body Parameters}
    {duty : Duty Body}
    {method : ActionMethod Body}
    {inputs : Option IncrementalInputs}
    {next : Outcome → Procedure Body Parameters Completion}
    (follows : Follows configured duty (.invoke method target inputs next)) :
    duty.Holds := by
  rcases follows .succeeded with ⟨after, moves, -⟩
  cases moves with
  | succeed declared => trivial
  | fail unsuccessful => trivial

/-- Only a record can follow when one is owed. -/
theorem Follows.record_of_owing
    {configured : ConfiguredTask Body Parameters}
    {factory : ActionFactory Body}
    {left : List (ActionFactory Body)}
    {procedure : Procedure Body Parameters Completion}
    (follows : Follows configured (.owing factory left) procedure) :
    ∃ next, procedure = .record configured.path factory.displayName next := by
  cases procedure with
  | done result => exact follows.elim
  | report event next =>
      rcases follows with ⟨after, moves, -⟩
      cases moves
  | classInfo type next =>
      rcases follows with ⟨after, moves, -⟩
      cases moves
  | acquire next =>
      rcases follows with ⟨after, moves, -⟩
      cases moves
  | release next =>
      rcases follows with ⟨after, moves, -⟩
      cases moves
  | invoke method target inputs next =>
      rcases follows .succeeded with ⟨after, moves, -⟩
      cases moves
  | snapshot parameters next =>
      rcases follows .null with ⟨after, moves, -⟩
      cases moves
  | create action parameters next =>
      rcases follows .succeeded with ⟨after, moves, -⟩
      cases moves
  | perform action parameters next =>
      rcases follows .succeeded with ⟨after, moves, -⟩
      cases moves
  | record task action next =>
      rcases follows with ⟨after, moves, -⟩
      cases moves with
      | record declared => exact ⟨next, rfl⟩
      | recordLast => exact ⟨next, rfl⟩

/-! ## Several workers -/

section Workers

variable {Result Worker : Type} {duties : Worker → Duty Body}

/-- A worker goes on with its new duty, and every other one with the duty it had. -/
theorem follows_update
    [DecidableEq Worker]
    {configured : Worker → ConfiguredTask Body Parameters}
    {rest : Worker → Procedure Body Parameters Result}
    (follows : ∀ worker, Follows (configured worker) (duties worker) (rest worker))
    {worker : Worker}
    {after : Duty Body}
    {next : Procedure Body Parameters Result}
    (onward : Follows (configured worker) after next) :
    ∀ other, Follows (configured other) (Function.update duties worker after other)
      (Function.update rest worker next other) := by
  intro other
  by_cases same : other = worker
  · rw [same, Function.update_self, Function.update_self]
    exact onward
  · rw [Function.update_of_ne same, Function.update_of_ne same]
    exact follows other

theorem not_holds_of_free
    {holder : Option Worker}
    {project : Project}
    (holds_iff : ∀ worker, (duties worker).Holds ↔ holder = some worker)
    (locked : project.locked = holder.isSome)
    (free : project.locked = false) :
    ∀ worker, ¬ (duties worker).Holds := by
  intro worker holds
  rw [(holds_iff worker).1 holds, free] at locked
  cases locked

end Workers

end Duty

end TaskDispatch
