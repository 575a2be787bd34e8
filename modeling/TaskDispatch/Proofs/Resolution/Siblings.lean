import TaskDispatch.Proofs.Resolution.Failures
import TaskDispatch.Proofs.Resolution.SelfDependency

/-!
# Declarations beside values that are no dependency

A declaration that is a value that is no dependency is answered with an error and leaves no trace in
the nodes and the failures.  Neither does the note that a declaration is left out, because nothing
looks at the events of a context again.  So such values can be put anywhere between declarations:
the other declarations are answered as they were without them.

Two contexts are `InStep` if they agree in what is recorded, and recall the same story.  Then every
call has one answer on both and leaves them in step; this needs no induction of its own, because
the story of a walk is determined (`Chronicle.deterministic`).  The main statement is
`siblings_undisturbed`.
-/

namespace TaskDispatch

/-! ## Lists with values put between the declarations -/

/-- A declaration, or a value that is put before, between or after declarations. -/
inductive Entry where
  | declared (declaration : Declaration)
  | inserted (value : ForeignValue)

namespace Entry

/-- What is declared with an entry. -/
def declaration : Entry → Declaration
  | .declared declaration => declaration
  | .inserted value => .other value

/-- What was declared before values were inserted. -/
def original? : Entry → Option Declaration
  | .declared declaration => some declaration
  | .inserted _ => none

/-- The declarations before values were inserted. -/
def originals (entries : List Entry) : List Declaration := entries.filterMap original?

/-- The declarations and the values inserted. -/
def all (entries : List Entry) : List Declaration := entries.map declaration

/-- The answers to all entries: the inserted values are refused, and the others are answered, one
after the other, as given. -/
def weave (owner : Option String) : List Entry → List AddResult → List AddResult
  | [], _ => []
  | .inserted value :: entries, answers =>
      .error (value.unsupported owner) :: weave owner entries answers
  | .declared _ :: entries, answer :: answers => answer :: weave owner entries answers
  | .declared _ :: _, [] => []

section Uninserted

variable (declarations : List Declaration)

@[simp]
theorem originals_declared : originals (declarations.map .declared) = declarations := by
  unfold originals
  rw [List.filterMap_map]
  exact List.filterMap_some

@[simp]
theorem all_declared : all (declarations.map .declared) = declarations := by
  unfold all
  rw [List.map_map]
  exact List.map_id declarations

/-- Where nothing is inserted there is nothing to weave. -/
theorem weave_declared
    (owner : Option String)
    {answers : List AddResult}
    (answered : answers.length = declarations.length) :
    weave owner (declarations.map .declared) answers = answers := by
  induction declarations generalizing answers with
  | nil =>
      rw [List.length_eq_zero_iff.mp answered]
      rfl
  | cons declaration declarations ih =>
      cases answers with
      | nil => cases answered
      | cons answer answers => exact congrArg (answer :: ·) (ih (Nat.succ.inj answered))

end Uninserted

end Entry

/-- The errors among answers, in order. -/
def errorsOf (answers : List AddResult) : List UnsupportedDependency :=
  answers.filterMap fun answer =>
    match answer with
    | .ok _ => none
    | .error error => some error

@[simp]
theorem errorsOf_ok (answers : List AddResult) : errorsOf (.ok () :: answers) = errorsOf answers :=
  rfl

@[simp]
theorem errorsOf_error (error : UnsupportedDependency) (answers : List AddResult) :
    errorsOf (.error error :: answers) = error :: errorsOf answers := rfl

namespace Context

/-- The answers to declarations that are added one after the other. -/
def answers (contributors : Contributors) (context : Context) : List Declaration → List AddResult
  | [] => []
  | declaration :: declarations =>
      let step := context.add contributors declaration
      step.2 :: step.1.answers contributors declarations

theorem length_answers
    (contributors : Contributors)
    (context : Context)
    (declarations : List Declaration) :
    (context.answers contributors declarations).length = declarations.length := by
  induction declarations generalizing context with
  | nil => rfl
  | cons declaration declarations ih => rw [answers, List.length_cons, List.length_cons, ih]

section AddAll

variable
  {contributors : Contributors}
  {context : Context}
  {declaration : Declaration}
  {declarations : List Declaration}

theorem addAll_cons_of_ok (answer : (context.add contributors declaration).2 = .ok ()) :
    context.addAll contributors (declaration :: declarations) =
      (context.add contributors declaration).1.addAll contributors declarations := by
  simp only [addAll, answer]

/-- The context on which the addition of declarations goes on after an error. -/
def afterSkipping (context : Context) (error : UnsupportedDependency) : Context :=
  { context with events := context.events ++ [skipped error] }

theorem addAll_cons_of_error
    {error : UnsupportedDependency}
    (answer : (context.add contributors declaration).2 = .error error) :
    context.addAll contributors (declaration :: declarations) =
      let rest :=
        ((context.add contributors declaration).1.afterSkipping error).addAll contributors
          declarations
      (rest.1, error :: rest.2) := by
  simp only [addAll, answer]
  rfl

end AddAll

end Context

/-! ## Contexts in step -/

/-- True of two contexts that came to the same by the same story, apart from their events. -/
structure InStep (past : List Incident) (context other : Context) : Prop where
  recalls : context.Recalls past
  otherRecalls : other.Recalls past
  consistent : context.Consistent
  otherConsistent : other.Consistent
  owner : other.owner = context.owner
  visited : other.visited = context.visited
  nodes : other.nodes = context.nodes
  failures : other.failures = context.failures

namespace InStep

variable
  {past : List Incident}
  {context other : Context}

theorem fresh (owner : Option Task) : InStep [] (.fresh owner) (.fresh owner) :=
  ⟨.fresh owner, .fresh owner, Context.consistent_fresh owner, Context.consistent_fresh owner, rfl,
    rfl, rfl, rfl⟩

/-- Nothing depends on the events. -/
theorem afterSkipping (inStep : InStep past context other) (error : UnsupportedDependency) :
    InStep past context (other.afterSkipping error) :=
  { inStep with
    otherRecalls :=
      ⟨inStep.otherRecalls.visiting, inStep.otherRecalls.begun, inStep.otherRecalls.ended⟩ }

/-- An addition has one answer on contexts in step, and leaves them in step. -/
theorem add
    (inStep : InStep past context other)
    (contributors : Contributors)
    (declaration : Declaration) :
    (other.add contributors declaration).2 = (context.add contributors declaration).2 ∧
      ∃ past,
        InStep past (context.add contributors declaration).1
          (other.add contributors declaration).1 := by
  rcases context.walk_perform contributors (.add declaration) with ⟨moments, walk⟩
  rcases other.walk_perform contributors (.add declaration) with ⟨otherMoments, otherWalk⟩
  rcases walk.exists_told inStep.recalls inStep.consistent with ⟨incidents, told⟩
  rcases otherWalk.exists_told inStep.otherRecalls inStep.otherConsistent with
    ⟨otherIncidents, otherTold⟩
  have otherChronicle := otherTold.chronicle
  rw [inStep.owner, inStep.visited] at otherChronicle
  rcases otherChronicle.deterministic told.chronicle with ⟨rfl, visited, answer⟩
  refine ⟨answer, past ++ otherIncidents, ?_⟩
  constructor
  · exact inStep.recalls.walk walk told.chronicle
  · exact inStep.otherRecalls.walk otherWalk otherTold.chronicle
  · exact walk.consistent inStep.consistent
  · exact otherWalk.consistent inStep.otherConsistent
  · exact otherWalk.owner.trans (inStep.owner.trans walk.owner.symm)
  · exact visited
  · exact otherTold.nodes.trans (inStep.nodes ▸ told.nodes.symm)
  · exact otherTold.failures.trans (inStep.failures ▸ told.failures.symm)

/-- What is left and what is answered when entries are added and errors are noted, against the
declarations among them that are just added one after the other. -/
theorem addAll
    (inStep : InStep past context other)
    (contributors : Contributors)
    (entries : List Entry) :
    (∃ past,
      InStep past
        (context.performAll contributors ((Entry.originals entries).map .add))
        (other.addAll contributors (Entry.all entries)).1) ∧
    (other.addAll contributors (Entry.all entries)).2 =
      errorsOf
        (Entry.weave context.ownerPath entries
          (context.answers contributors (Entry.originals entries))) := by
  induction entries generalizing past context other with
  | nil => exact ⟨⟨past, inStep⟩, rfl⟩
  | cons entry entries ih =>
      cases entry with
      | inserted value =>
          have refused : (other.add contributors (.other value)).2 =
              .error (value.unsupported context.ownerPath) := by
            unfold Context.ownerPath
            rw [← inStep.owner]
            rfl
          rcases ih (inStep.afterSkipping (value.unsupported context.ownerPath)) with
            ⟨onward, errors⟩
          show
            (∃ past,
                InStep past _ (other.addAll contributors (.other value :: Entry.all entries)).1) ∧
              (other.addAll contributors (.other value :: Entry.all entries)).2 =
                value.unsupported context.ownerPath :: errorsOf _
          rw [Context.addAll_cons_of_error refused]
          exact ⟨onward, congrArg _ errors⟩
      | declared declaration =>
          rcases context.walk_perform contributors (.add declaration) with ⟨moments, walk⟩
          have sameOwner :
              (context.add contributors declaration).1.ownerPath = context.ownerPath :=
            congrArg (Option.map Task.path) walk.owner
          rcases inStep.add contributors declaration with ⟨same, later, onward⟩
          show
            (∃ past,
                InStep past _ (other.addAll contributors (declaration :: Entry.all entries)).1) ∧
              (other.addAll contributors (declaration :: Entry.all entries)).2 =
                errorsOf
                  ((context.add contributors declaration).2 ::
                    Entry.weave context.ownerPath entries _)
          cases answer : (context.add contributors declaration).2 with
          | ok _ =>
              rw [Context.addAll_cons_of_ok (same.trans answer), ← sameOwner, errorsOf_ok]
              exact ih onward
          | error error =>
              rw [Context.addAll_cons_of_error (same.trans answer), ← sameOwner, errorsOf_error]
              rcases ih (onward.afterSkipping error) with ⟨stays, errors⟩
              exact ⟨stays, congrArg _ errors⟩

/-- Nothing but declarations is a case of entries. -/
theorem addAll_declarations
    (inStep : InStep past context other)
    (contributors : Contributors)
    (declarations : List Declaration) :
    (∃ past,
      InStep past
        (context.performAll contributors (declarations.map .add))
        (other.addAll contributors declarations).1) ∧
    (other.addAll contributors declarations).2 =
      errorsOf (context.answers contributors declarations) := by
  have added := inStep.addAll contributors (declarations.map .declared)
  rw [Entry.originals_declared, Entry.all_declared,
    Entry.weave_declared declarations _ (context.length_answers contributors declarations)] at added
  exact added

theorem currentDeclaration_eq (inStep : InStep past context other) :
    other.currentDeclaration = context.currentDeclaration := by
  rw [inStep.recalls.currentDeclaration_eq, inStep.otherRecalls.currentDeclaration_eq]

/-- What is known is known to both. -/
theorem contains_eq (inStep : InStep past context other) (key : NodeKey) :
    other.contains key = context.contains key := by
  rw [Bool.eq_iff_iff, inStep.otherConsistent.contains_iff, inStep.consistent.contains_iff,
    inStep.nodes]

/-- A task that depends on itself is reported alike. -/
theorem reportSelf_failures
    (inStep : InStep past context other)
    (policy : SelfDependencyPolicy)
    (owner : Task) :
    (Resolver.reportSelf policy owner other).failures =
      (Resolver.reportSelf policy owner context).failures := by
  unfold Resolver.reportSelf Context.visitFailure
  rw [inStep.contains_eq, inStep.currentDeclaration_eq]
  split
  · exact congrArg (· ++ _) inStep.failures
  · exact inStep.failures

end InStep

/-! ## Resolutions with and without the inserted values -/

/-- What values inserted between declarations change in a resolution, given the answers to the
declarations. -/
structure Undisturbed
    (owner : Option String)
    (entries : List Entry)
    (answers : List AddResult)
    (original longer : Resolution) :
    Prop where
  nodes : longer.nodes = original.nodes
  failures : longer.failures = original.failures
  /-- Every declaration has its answer. -/
  answered : answers.length = (Entry.originals entries).length
  /-- Each answer that is an error is listed, in the order of the declarations. -/
  unsupported : original.unsupported = errorsOf answers
  /-- The errors of the inserted values are listed where they were inserted. -/
  woven : longer.unsupported = errorsOf (Entry.weave owner entries answers)

theorem Resolution.strict_eq_error_iff (resolution : Resolution) (error : UnsupportedDependency) :
    resolution.strict = .error error ↔ resolution.unsupported.head? = some error := by
  unfold strict
  cases resolution.unsupported with
  | nil => simp
  | cons first rest => simp

theorem Resolution.strict_eq_ok_iff (resolution unchanged : Resolution) :
    resolution.strict = .ok unchanged ↔ resolution.unsupported = [] ∧ unchanged = resolution := by
  unfold strict
  cases resolution.unsupported with
  | nil => simp [eq_comm]
  | cons first rest => simp

namespace Resolver

/-- Values that are no dependency, inserted anywhere between declarations, change nothing but the
list of what is unsupported, where each is listed in its place.  The strict result of a resolution
is the first error listed, or the resolution as it is. -/
theorem siblings_undisturbed (contributors : Contributors) (entries : List Entry) :
    (∀ policy owner,
      Undisturbed (some owner.path) entries
        ((Context.fresh (some owner)).answers contributors (Entry.originals entries))
        (resolve contributors policy owner (Entry.originals entries)).resolution
        (resolve contributors policy owner (Entry.all entries)).resolution) ∧
    Undisturbed none entries
      ((Context.fresh none).answers contributors (Entry.originals entries))
      (resolveRoot contributors (Entry.originals entries)).resolution
      (resolveRoot contributors (Entry.all entries)).resolution ∧
    ∀ resolution : Resolution,
      (∀ error,
        resolution.strict = .error error ↔ resolution.unsupported.head? = some error) ∧
      ∀ unchanged,
        resolution.strict = .ok unchanged ↔
          resolution.unsupported = [] ∧ unchanged = resolution := by
  refine ⟨?_, ?_, ?_⟩
  · intro policy owner
    rcases (InStep.fresh (some owner)).addAll_declarations contributors
        (Entry.originals entries) with ⟨⟨past, original⟩, unsupported⟩
    rcases (InStep.fresh (some owner)).addAll contributors entries with
      ⟨⟨longerPast, longer⟩, woven⟩
    constructor
    · unfold resolve
      dsimp only
      rw [reportSelf_nodes, reportSelf_nodes, longer.nodes, original.nodes]
    · exact (longer.reportSelf_failures policy owner).trans
        (original.reportSelf_failures policy owner).symm
    · exact Context.length_answers _ _ _
    · exact unsupported
    · exact woven
  · rcases (InStep.fresh none).addAll_declarations contributors
        (Entry.originals entries) with ⟨⟨past, original⟩, unsupported⟩
    rcases (InStep.fresh none).addAll contributors entries with
      ⟨⟨longerPast, longer⟩, woven⟩
    constructor
    · exact longer.nodes.trans original.nodes.symm
    · exact longer.failures.trans original.failures.symm
    · exact Context.length_answers _ _ _
    · exact unsupported
    · exact woven
  · intro resolution
    exact ⟨resolution.strict_eq_error_iff, resolution.strict_eq_ok_iff⟩

end Resolver

/-! ## A declaration that fails, and one that is refused -/

namespace Unsettled

def app : Task := ⟨⟨1⟩, ":app"⟩

def lib : Task := ⟨⟨2⟩, ":lib"⟩

def offline : Cause := .ofText "offline"

def seven : ForeignValue := ⟨"u8", "7", .null⟩

def eight : ForeignValue := ⟨"u8", "8", .null⟩

/-- A container that reports a failure and goes on to add a task. -/
def unsettled : Contributors :=
  [ { Contributor.idle with
      visit := fun _ => .fail offline (.add (.task lib) fun _ => .finish) } ]

/-- What a task declares: the container, a value that is no dependency, and itself. -/
def declared : List Declaration := [.contributor .container 0, .other seven, .task app]

/-- The same with another value before, between and after. -/
def entries : List Entry :=
  [ .inserted eight, .declared (.contributor .container 0), .inserted eight,
    .declared (.other seven), .declared (.task app), .inserted eight ]

/-- The resolution in which these values are refused. -/
def outcome (refused : List ForeignValue) : Resolution where
  nodes := [.task lib]
  failures := [⟨"dependency container", offline⟩, ⟨topLevel, Resolver.selfDependency app⟩]
  unsupported := refused.map fun value => value.unsupported (some ":app")

/-- The node and the failures are there with and without the inserted values, which are listed in
their places. -/
theorem woven_between :
    (Resolver.resolve unsettled .report app declared).resolution = outcome [seven] ∧
      (Resolver.resolve unsettled .report app (Entry.all entries)).resolution =
        outcome [eight, eight, seven, eight] := by
  have original :
      (Resolver.resolve unsettled .report app declared).resolution = outcome [seven] := by
    decide
  have undisturbed := (Resolver.siblings_undisturbed unsettled entries).1 .report app
  have nodes := undisturbed.nodes
  have failures := undisturbed.failures
  have woven := undisturbed.woven
  rw [show Entry.originals entries = declared from rfl, original] at nodes failures
  refine ⟨original, ?_⟩
  cases longer : (Resolver.resolve unsettled .report app (Entry.all entries)).resolution with
  | mk longerNodes longerFailures longerUnsupported =>
      rw [longer] at nodes failures woven
      cases nodes
      cases failures
      cases woven
      rfl

end Unsettled

end TaskDispatch
