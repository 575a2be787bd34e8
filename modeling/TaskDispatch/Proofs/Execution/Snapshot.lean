import TaskDispatch.Isolation.NativeValue
import TaskDispatch.Proofs.Execution.Handover

/-!
# Changes of live parameters around a snapshot

The live graph of the parameters of a task can be changed at any moment through any handle to it: by
the declared bodies that the execution itself runs, by other tasks and by anyone else.  An isolated
action is run on what the graph was at one moment, and later changes do not reach it.

A `Sharing` is an execution among all who change live graphs, take snapshots and materialize them.
The lock of the project plays no part in it, so it allows more than what the lock would admit.  Its
history lists what happened, and `valuesAfter` tells from the changes alone what a live graph holds:
what was set under a key, until a change puts something else there (`member?_valuesAfter_set`).

What an execution may still ask for is argued from its acts (`always_execute`): it reads once, after
all declared bodies.  What each happening finds is argued from those before it (`Fits`).  The two
together are `Sharing.Isolated`.
-/

namespace TaskDispatch

variable {Body Parameters Result User : Type}

/-! ## Changes of live graphs -/

/-- A call that changes a live graph. -/
inductive GraphChange where
  /-- Set a member; a value without a JSON form is refused. -/
  | set (key : String) (value : NativeValue)
  | update (edit : Json → Json)

/-- The values of a live graph after a change. -/
def GraphChange.apply : GraphChange → Json → Json
  | .set key value, values =>
      match value.toJson with
      | .ok encoded => LiveGraph.set key encoded values
      | .error _ => values
  | .update edit, values => edit values

namespace GraphChange

theorem apply_set_of_ok
    {key : String}
    {value : NativeValue}
    {encoded : Json}
    (encodes : value.toJson = .ok encoded)
    (graph : Json) :
    (GraphChange.set key value).apply graph = LiveGraph.set key encoded graph := by
  simp only [apply, encodes]

theorem apply_set_of_error
    {key : String}
    {value : NativeValue}
    {problem : EncodingProblem}
    (refused : value.toJson = .error problem)
    (graph : Json) :
    (GraphChange.set key value).apply graph = graph := by
  simp only [apply, refused]

/-- True of a change that puts nothing new under a key, whatever graph it is made on. -/
def Spares (key : String) : GraphChange → Prop
  | .set other _ => other ≠ key
  | .update edit => ∀ graph, (edit graph).member? key = graph.member? key

theorem Spares.member?_apply
    {key : String}
    {change : GraphChange}
    (spares : change.Spares key)
    (graph : Json) :
    (change.apply graph).member? key = graph.member? key := by
  cases change with
  | update edit => exact spares graph
  | set other value =>
      cases encodes : value.toJson with
      | ok encoded => rw [apply_set_of_ok encodes, LiveGraph.member?_set, if_neg (Ne.symm spares)]
      | error problem => rw [apply_set_of_error encodes]

theorem member?_foldl_of_spares
    {key : String}
    {changes : List GraphChange}
    (spare : ∀ change ∈ changes, change.Spares key)
    (graph : Json) :
    (changes.foldl (fun values change => change.apply values) graph).member? key =
      graph.member? key := by
  induction changes generalizing graph with
  | nil => rfl
  | cons change changes ih =>
      rcases List.forall_mem_cons.1 spare with ⟨first, rest⟩
      rw [List.foldl_cons, ih rest, first.member?_apply]

end GraphChange

/-- Who changes a live graph. -/
inductive Author (User : Type) where
  /-- A declared body that the execution itself runs. -/
  | declaredBody
  | other (user : User)

/-- What happens around an execution. -/
inductive Happening (Body Parameters User : Type) where
  /-- A request of the execution is answered. -/
  | acted (act : Act Body)
  /-- A live graph is changed through a handle. -/
  | changed
      (author : Author User)
      (handle : IsolatedParameters Parameters)
      (change : GraphChange)
  /-- Someone takes a snapshot through a handle and gets it under a number. -/
  | isolated (handle : IsolatedParameters Parameters) (number : Nat)
  /-- Someone materializes a snapshot, with what comes of it. -/
  | materialized
      (number : Nat)
      (decode : Json → Decoding Parameters)
      (result : Decoding Parameters)

namespace Happening

def act? : Happening Body Parameters User → Option (Act Body)
  | .acted act => some act
  | _ => none

def change? (graph : GraphId) : Happening Body Parameters User → Option GraphChange
  | .changed _ handle change => if handle.graph = graph then some change else none
  | _ => none

/-- True if a declared body of the execution changes a live graph or ends. -/
def OfDeclaredBody : Happening Body Parameters User → Prop
  | .acted (.invoked _ _) => True
  | .changed .declaredBody _ _ => True
  | _ => False

end Happening

abbrev HappeningHistory (Body Parameters User : Type) := List (Happening Body Parameters User)

namespace HappeningHistory

variable
  (initial : GraphId → Json)
  (history : HappeningHistory Body Parameters User)
  (happening : Happening Body Parameters User)

def acts : List (Act Body) := history.filterMap Happening.act?

def changes (graph : GraphId) : List GraphChange := history.filterMap (Happening.change? graph)

/-- The values of a live graph, from its first values and the changes alone. -/
def valuesAfter (graph : GraphId) : Json :=
  (changes history graph).foldl (fun values change => change.apply values) (initial graph)

/-- True if the execution has not read the live parameters. -/
def Unread : Prop := ∀ values, .acted (.read values) ∉ history

theorem mem_acts_iff (act : Act Body) : act ∈ acts history ↔ .acted act ∈ history := by
  rw [acts, List.mem_filterMap]
  constructor
  · rintro ⟨other, member, same⟩
    cases other <;> cases same
    exact member
  · intro member
    exact ⟨.acted act, member, rfl⟩

theorem acts_concat : acts (history ++ [happening]) = acts history ++ happening.act?.toList := by
  rw [acts, List.filterMap_append, List.filterMap_cons, List.filterMap_nil]
  cases happening.act? <;> rfl

theorem acts_concat_of_none (notActed : happening.act? = none) :
    acts (history ++ [happening]) = acts history := by
  rw [acts_concat, notActed, Option.toList_none, List.append_nil]

theorem valuesAfter_concat (graph : GraphId) :
    valuesAfter initial (history ++ [happening]) graph =
      match happening.change? graph with
      | some change => change.apply (valuesAfter initial history graph)
      | none => valuesAfter initial history graph := by
  rw [valuesAfter, changes, List.filterMap_append, List.foldl_append, List.filterMap_cons,
    List.filterMap_nil]
  cases happening.change? graph <;> rfl

theorem valuesAfter_concat_of_none
    (unchanged : ∀ graph, happening.change? graph = none) :
    valuesAfter initial (history ++ [happening]) = valuesAfter initial history := by
  funext graph
  rw [valuesAfter_concat, unchanged]

theorem valuesAfter_concat_changed
    (author : Author User)
    (handle : IsolatedParameters Parameters)
    (change : GraphChange) :
    valuesAfter initial (history ++ [.changed author handle change]) =
      Function.update (valuesAfter initial history) handle.graph
        (change.apply (valuesAfter initial history handle.graph)) := by
  funext graph
  rw [valuesAfter_concat, Happening.change?]
  by_cases same : handle.graph = graph
  · subst same
    rw [if_pos rfl, Function.update_self]
  · rw [if_neg same, Function.update_of_ne (Ne.symm same)]

/-- What was set under a key stays there as long as the changes spare it. -/
theorem member?_valuesAfter_set
    {before after : HappeningHistory Body Parameters User}
    {author : Author User}
    {handle : IsolatedParameters Parameters}
    {key : String}
    {value : NativeValue}
    {encoded : Json}
    (encodes : value.toJson = .ok encoded)
    (spared : ∀ change ∈ changes after handle.graph, change.Spares key) :
    (valuesAfter initial (before ++ .changed author handle (.set key value) :: after)
      handle.graph).member? key = some encoded := by
  have made :
      changes (.changed author handle (.set key value) :: after) handle.graph =
        .set key value :: changes after handle.graph := by
    simp only [changes, List.filterMap_cons, Happening.change?, if_true]
  rw [valuesAfter, changes, List.filterMap_append, List.foldl_append, ← changes, ← changes, made,
    List.foldl_cons, GraphChange.member?_foldl_of_spares spared,
    GraphChange.apply_set_of_ok encodes, LiveGraph.member?_set, if_pos rfl]

end HappeningHistory

open HappeningHistory

/-! ## When an execution reads its parameters -/

section Requests

variable (configured : ConfiguredTask Body Parameters)

/-- True of acts among which the live parameters are not read. -/
def NotRead (acts : List (Act Body)) : Prop := ∀ values, .read values ∉ acts

/-- True if what was read has been materialized for an action. -/
def ReadFor
    (acts : List (Act Body))
    (action : IsolatedAction Parameters)
    (values : Parameters) :
    Prop :=
  ∃ preparation : Preparation configured,
    action = preparation.parameters.action ∧
      values = preparation.values ∧
      .read preparation.read ∈ acts

/-- What has been read whenever an execution asks for something: nothing before a declared body is
run and before the parameters are read, and afterwards what the isolated action is run on. -/
def ReadBefore (acts : List (Act Body)) : Procedure Body Parameters Result → Prop
  | .invoke _ _ _ _ => NotRead acts
  | .snapshot parameters _ => configured.parameters = some parameters ∧ NotRead acts
  | .create action values _ => ReadFor configured acts action values
  | .perform action values _ => ReadFor configured acts action values
  | _ => True

variable {configured}

theorem NotRead.concat
    {acts : List (Act Body)}
    {act : Act Body}
    (notRead : NotRead acts)
    (other : ∀ values, act ≠ .read values) :
    NotRead (acts ++ [act]) := by
  intro values member
  rcases List.mem_append.1 member with earlier | last
  · exact notRead values earlier
  · exact other values (List.mem_singleton.1 last).symm

theorem always_attempt_declared
    {acts : List (Act Body)}
    {factory : ActionFactory Body}
    {next : ActionResult → Procedure Body Parameters Result}
    (declared : factory.isDeclared = true)
    (notRead : NotRead acts)
    (goesOn :
      ∀ later result, NotRead later → Procedure.Always (ReadBefore configured) later (next result))
    (inputs : Option IncrementalInputs) :
    Procedure.Always (ReadBefore configured) acts (factory.attempt configured inputs next) := by
  cases factory with
  | standard typeName method =>
      exact ⟨notRead, fun outcome => goesOn _ _ (notRead.concat nofun)⟩
  | incremental typeName method =>
      cases inputs with
      | none => exact goesOn _ _ notRead
      | some inputs => exact ⟨notRead, fun outcome => goesOn _ _ (notRead.concat nofun)⟩
  | isolated typeName => cases declared

theorem always_attempt_last
    {acts : List (Act Body)}
    {typeName : String}
    {next : ActionResult → Procedure Body Parameters Result}
    (notRead : NotRead acts)
    (goesOn : ∀ later result, Procedure.Always (ReadBefore configured) later (next result))
    (inputs : Option IncrementalInputs) :
    Procedure.Always (ReadBefore configured) acts
      (ActionFactory.attempt configured inputs (.isolated typeName) next) := by
  unfold ActionFactory.attempt
  cases carried : configured.parameters with
  | none => exact goesOn _ _
  | some parameters =>
      refine ⟨⟨carried, notRead⟩, ?_⟩
      intro read
      beta_reduce
      cases materialized : parameters.action.materialize read with
      | refused cause => exact goesOn _ _
      | panicked => exact goesOn _ _
      | decoded values =>
          let preparation : Preparation configured :=
            ⟨parameters, read, values, carried, materialized⟩
          refine ⟨trivial, trivial, ⟨preparation, rfl, rfl, by simp [preparation]⟩, ?_⟩
          intro created
          cases created with
          | failed cause => exact ⟨trivial, goesOn _ _⟩
          | panicked => exact ⟨trivial, goesOn _ _⟩
          | succeeded =>
              refine ⟨⟨preparation, rfl, rfl, by simp [preparation]⟩, ?_⟩
              intro outcome
              exact ⟨trivial, goesOn _ _⟩

theorem always_runActions
    (inputs : Option IncrementalInputs)
    (incremental : Bool)
    (done : List String)
    {acts : List (Act Body)}
    {left : List (ActionFactory Body)}
    (isolatedLast : IsolatedLast left)
    (notRead : NotRead acts) :
    Procedure.Always (ReadBefore configured) acts
      (Executer.runActions configured inputs incremental done left) := by
  induction left generalizing done acts with
  | nil => exact ⟨trivial, trivial, trivial⟩
  | cons factory left ih =>
      rcases isolatedLast with ⟨last, remaining⟩
      have reported :
          NotRead (acts ++ [.reported (Executer.executing configured.path factory)]) :=
        notRead.concat nofun
      refine ⟨trivial, ?_⟩
      cases factory with
      | isolated typeName =>
          rcases last with declared | rfl
          · cases declared
          apply always_attempt_last reported
          intro later result
          cases result with
          | succeeded => exact ⟨trivial, trivial, trivial, trivial⟩
          | failed error => exact ⟨trivial, trivial, trivial⟩
          | panicked => exact ⟨trivial, trivial⟩
      | _ =>
          apply always_attempt_declared rfl reported
          intro later result notRead
          cases result with
          | succeeded => exact ⟨trivial, ih _ remaining (notRead.concat nofun)⟩
          | failed error => exact ⟨trivial, trivial, trivial⟩
          | panicked => exact ⟨trivial, trivial⟩

/-- An execution reads its parameters once, after all declared bodies, and what it makes its
isolated action from is what it read. -/
theorem always_execute (execution : Execution Body Parameters) :
    Procedure.Always (ReadBefore execution.configured) [] execution.procedure := by
  refine ⟨trivial, ?_⟩
  beta_reduce
  cases built : ClassInfo.build execution.configured.type with
  | error error => exact trivial
  | ok info =>
      refine ⟨trivial, always_runActions _ _ _ (ClassInfo.isolatedLast_of_build built) ?_⟩
      intro values member
      simp at member

end Requests

/-! ## Executions among those who change their parameters -/

/-- Where an execution stands among all who use live graphs. -/
structure Sharing (Body Parameters User : Type) where
  rest : Procedure Body Parameters Completion
  graphs : GraphId → Json
  /-- The snapshots that were taken, by their numbers. -/
  snapshots : List Json
  history : HappeningHistory Body Parameters User

namespace Sharing

def start
    (execution : Execution Body Parameters)
    (initial : GraphId → Json) :
    Sharing Body Parameters User :=
  ⟨execution.procedure, initial, [], []⟩

/-- True of what can be come to.  User code may end as it likes; a declared body can change live
graphs from when its execution asks for it until it has ended, and all others at any moment. -/
inductive Reachable
    (execution : Execution Body Parameters)
    (initial : GraphId → Json) :
    Sharing Body Parameters User → Prop where
  | start : Reachable execution initial (start execution initial)
  /-- The execution reads its live parameters. -/
  | read
      {state : Sharing Body Parameters User}
      {parameters : IsolatedParameters Parameters}
      {next : Json → Procedure Body Parameters Completion}
      (reached : Reachable execution initial state)
      (asks : state.rest = .snapshot parameters next) :
      Reachable execution initial
        { state with
          rest := next (state.graphs parameters.graph)
          history := state.history ++ [.acted (.read (state.graphs parameters.graph))] }
  /-- The execution takes any other step. -/
  | act
      {state : Sharing Body Parameters User}
      {act : Act Body}
      {rest : Procedure Body Parameters Completion}
      (reached : Reachable execution initial state)
      (takes : state.rest.Takes act rest)
      (other : ∀ values, act ≠ .read values) :
      Reachable execution initial
        { state with rest, history := state.history ++ [.acted act] }
  | change
      {state : Sharing Body Parameters User}
      (reached : Reachable execution initial state)
      (author : Author User)
      (handle : IsolatedParameters Parameters)
      (change : GraphChange)
      (inside :
        author = .declaredBody →
          ∃ method target inputs next, state.rest = .invoke method target inputs next) :
      Reachable execution initial
        { state with
          graphs :=
            Function.update state.graphs handle.graph (change.apply (state.graphs handle.graph))
          history := state.history ++ [.changed author handle change] }
  | isolate
      {state : Sharing Body Parameters User}
      (reached : Reachable execution initial state)
      (handle : IsolatedParameters Parameters) :
      Reachable execution initial
        { state with
          snapshots := state.snapshots ++ [state.graphs handle.graph]
          history := state.history ++ [.isolated handle state.snapshots.length] }
  | materialize
      {state : Sharing Body Parameters User}
      {number : Nat}
      {values : Json}
      (reached : Reachable execution initial state)
      (kept : state.snapshots[number]? = some values)
      (decode : Json → Decoding Parameters) :
      Reachable execution initial
        { state with
          history := state.history ++ [.materialized number decode (decode values)] }

section

variable
  {execution : Execution Body Parameters}
  {initial : GraphId → Json}
  {state : Sharing Body Parameters User}

theorem Reachable.readBefore (reached : Reachable execution initial state) :
    Procedure.Always (ReadBefore execution.configured) (acts state.history) state.rest := by
  induction reached with
  | start => exact always_execute execution
  | @read state parameters next reached asks ih =>
      rw [asks] at ih
      rw [acts_concat]
      exact ih.step (.snapshot _)
  | act reached takes other ih =>
      rw [acts_concat]
      exact ih.step takes
  | change reached author handle change inside ih =>
      rw [acts_concat_of_none _ _ rfl]
      exact ih
  | isolate reached handle ih =>
      rw [acts_concat_of_none _ _ rfl]
      exact ih
  | materialize reached kept decode ih =>
      rw [acts_concat_of_none _ _ rfl]
      exact ih

/-- Nothing but the changes has any effect on a live graph. -/
theorem Reachable.graphs_eq (reached : Reachable execution initial state) :
    state.graphs = valuesAfter initial state.history := by
  induction reached with
  | start => rfl
  | read reached asks ih => rw [valuesAfter_concat_of_none _ _ _ fun _ => rfl, ← ih]
  | act reached takes other ih => rw [valuesAfter_concat_of_none _ _ _ fun _ => rfl, ← ih]
  | change reached author handle change inside ih => rw [valuesAfter_concat_changed, ← ih]
  | isolate reached handle ih => rw [valuesAfter_concat_of_none _ _ _ fun _ => rfl, ← ih]
  | materialize reached kept decode ih =>
      rw [valuesAfter_concat_of_none _ _ _ fun _ => rfl, ← ih]

end

/-! ## What a happening finds -/

/-- What has to do with each other: a happening, those before it, and the snapshots taken. -/
def Fits
    (configured : ConfiguredTask Body Parameters)
    (initial : GraphId → Json)
    (snapshots : List Json)
    (earlier : HappeningHistory Body Parameters User) :
    Happening Body Parameters User → Prop
  | .acted (.read values) =>
      Unread earlier ∧
        ∃ parameters,
          configured.parameters = some parameters ∧
            values = valuesAfter initial earlier parameters.graph
  | .acted (.invoked _ _) => Unread earlier
  | .changed .declaredBody _ _ => Unread earlier
  | .isolated handle number => snapshots[number]? = some (valuesAfter initial earlier handle.graph)
  | .materialized number decode result =>
      ∃ values, snapshots[number]? = some values ∧ result = decode values
  | _ => True

section

variable
  {execution : Execution Body Parameters}
  {configured : ConfiguredTask Body Parameters}
  {initial : GraphId → Json}
  {snapshots : List Json}
  {earlier : HappeningHistory Body Parameters User}
  {happening : Happening Body Parameters User}
  {state : Sharing Body Parameters User}

theorem Fits.unread (fits : Fits configured initial snapshots earlier happening) :
    happening.OfDeclaredBody → Unread earlier := by
  intro ofBody
  unfold Happening.OfDeclaredBody at ofBody
  split at ofBody
  · exact fits
  · exact fits
  · exact ofBody.elim

/-- A snapshot taken later changes nothing. -/
theorem Fits.concat
    (fits : Fits configured initial snapshots earlier happening)
    (values : Json) :
    Fits configured initial (snapshots ++ [values]) earlier happening := by
  have kept {number : Nat} {held : Json} (present : snapshots[number]? = some held) :
      (snapshots ++ [values])[number]? = some held := by
    rw [List.getElem?_append_left (List.getElem?_eq_some_iff.1 present).1]
    exact present
  cases happening with
  | isolated handle number => exact kept fits
  | materialized number decode result =>
      rcases fits with ⟨held, present, same⟩
      exact ⟨held, kept present, same⟩
  | acted act => cases act <;> exact fits
  | changed author handle change => cases author <;> exact fits

theorem fits_concat
    {history : HappeningHistory Body Parameters User}
    (before :
      ∀ earlier happening,
        earlier ++ [happening] <+: history → Fits configured initial snapshots earlier happening)
    (last : Fits configured initial snapshots history happening) :
    ∀ earlier other,
      earlier ++ [other] <+: history ++ [happening] →
        Fits configured initial snapshots earlier other := by
  intro earlier other part
  rcases List.prefix_concat_iff.1 part with whole | inner
  · rcases List.append_inj' whole rfl with ⟨rfl, same⟩
    cases same
    exact last
  · exact before earlier other inner

theorem unread_iff (history : HappeningHistory Body Parameters User) :
    Unread history ↔ NotRead (acts history) := by
  unfold Unread NotRead
  simp only [mem_acts_iff]

theorem Reachable.fits (reached : Reachable execution initial state) :
    ∀ earlier happening,
      earlier ++ [happening] <+: state.history →
        Fits execution.configured initial state.snapshots earlier happening := by
  induction reached with
  | start =>
      intro earlier happening part
      cases List.append_ne_nil_of_right_ne_nil earlier (List.cons_ne_nil happening [])
        (List.prefix_nil.1 part)
  | @read state parameters next reached asks ih =>
      have asked := reached.readBefore.holds
      rw [asks] at asked
      rcases asked with ⟨carried, notRead⟩
      refine fits_concat ih ⟨(unread_iff _).2 notRead, parameters, carried, ?_⟩
      rw [reached.graphs_eq]
  | @act state act rest reached takes other ih =>
      refine fits_concat ih ?_
      have asked := reached.readBefore.holds
      generalize state.rest = procedure at takes asked
      cases takes with
      | invoke outcome => exact (unread_iff _).2 asked
      | snapshot values => exact absurd rfl (other values)
      | _ => trivial
  | @change state reached author handle change inside ih =>
      refine fits_concat ih ?_
      cases author with
      | other user => trivial
      | declaredBody =>
          rcases inside rfl with ⟨method, target, inputs, next, asks⟩
          have asked := reached.readBefore.holds
          rw [asks] at asked
          exact (unread_iff _).2 asked
  | @isolate state reached handle ih =>
      refine fits_concat (fun earlier happening part => (ih earlier happening part).concat _) ?_
      rw [Fits, List.getElem?_concat_length, reached.graphs_eq]
  | materialize reached kept decode ih => exact fits_concat ih ⟨_, kept, rfl⟩

end

/-! ## Isolation -/

/-- What an isolated action is given: the live values of one moment, with what happened before and
after it. -/
structure Receipt
    (configured : ConfiguredTask Body Parameters)
    (initial : GraphId → Json)
    (history : HappeningHistory Body Parameters User) where
  parameters : IsolatedParameters Parameters
  before : HappeningHistory Body Parameters User
  after : HappeningHistory Body Parameters User
  carried : configured.parameters = some parameters
  split :
    history =
      before ++ .acted (.read (valuesAfter initial before parameters.graph)) :: after
  /-- The parameters are read at no other moment. -/
  readOnce : Unread before ∧ Unread after
  /-- All declared bodies have made their changes and ended before. -/
  bodiesBefore : ∀ happening ∈ after, ¬ happening.OfDeclaredBody

/-- The values of the live graph at the moment at which it was read. -/
def Receipt.read
    {configured : ConfiguredTask Body Parameters}
    {initial : GraphId → Json}
    {history : HappeningHistory Body Parameters User}
    (receipt : Receipt configured initial history) :
    Json :=
  valuesAfter initial receipt.before receipt.parameters.graph

/-- What a declared body did, it did before the parameters were read. -/
theorem Receipt.mem_before
    {configured : ConfiguredTask Body Parameters}
    {initial : GraphId → Json}
    {history : HappeningHistory Body Parameters User}
    (receipt : Receipt configured initial history)
    {happening : Happening Body Parameters User}
    (member : happening ∈ history)
    (ofBody : happening.OfDeclaredBody) :
    happening ∈ receipt.before := by
  rw [receipt.split] at member
  rcases List.mem_append.1 member with earlier | later
  · exact earlier
  · rcases List.mem_cons.1 later with rfl | afterwards
    · exact ofBody.elim
    · exact absurd ofBody (receipt.bodiesBefore happening afterwards)

/-- True if an action is given what it makes of the live values of one moment. -/
def Receives
    (configured : ConfiguredTask Body Parameters)
    (initial : GraphId → Json)
    (history : HappeningHistory Body Parameters User)
    (action : IsolatedAction Parameters)
    (values : Parameters) :
    Prop :=
  ∃ receipt : Receipt configured initial history,
    action = receipt.parameters.action ∧ action.materialize receipt.read = .decoded values

/-- What holds at every moment for an execution among those who use live graphs. -/
structure Isolated
    (configured : ConfiguredTask Body Parameters)
    (initial : GraphId → Json)
    (state : Sharing Body Parameters User) :
    Prop where
  /-- An isolated action is created for the values of one moment, whatever has changed since. -/
  create :
    ∀ action values next,
      state.rest = .create action values next →
        Receives configured initial state.history action values
  /-- It is run on the values of that moment. -/
  perform :
    ∀ action values next,
      state.rest = .perform action values next →
        Receives configured initial state.history action values
  /-- A snapshot keeps the values of the moment at which it was taken. -/
  kept :
    ∀ before handle number after,
      state.history = before ++ .isolated handle number :: after →
        state.snapshots[number]? = some (valuesAfter initial before handle.graph) ∧
          ∀ decode result,
            .materialized number decode result ∈ state.history →
              result = decode (valuesAfter initial before handle.graph)
  /-- Nothing but the changes has any effect on a live graph. -/
  live : ∀ graph, state.graphs graph = valuesAfter initial state.history graph
  /-- What was set is what the live graph holds, as long as nothing else was put in its place. -/
  set :
    ∀ before author handle key value after encoded,
      state.history = before ++ .changed author handle (.set key value) :: after →
        value.toJson = .ok encoded →
          (∀ change ∈ changes after handle.graph, change.Spares key) →
            (state.graphs handle.graph).member? key = some encoded

section

variable
  {execution : Execution Body Parameters}
  {initial : GraphId → Json}
  {state : Sharing Body Parameters User}

theorem Reachable.fits_of_append
    (reached : Reachable execution initial state)
    {earlier later : HappeningHistory Body Parameters User}
    {happening : Happening Body Parameters User}
    (parts : state.history = earlier ++ happening :: later) :
    Fits execution.configured initial state.snapshots earlier happening := by
  refine reached.fits earlier happening ⟨later, ?_⟩
  rw [parts, List.append_assoc, List.singleton_append]

/-- Whatever was read was read once, after all declared bodies. -/
theorem Reachable.receives
    (reached : Reachable execution initial state)
    {action : IsolatedAction Parameters}
    {values : Parameters}
    (prepared : ReadFor execution.configured (acts state.history) action values) :
    Receives execution.configured initial state.history action values := by
  rcases prepared with ⟨preparation, rfl, rfl, member⟩
  rw [mem_acts_iff] at member
  rcases List.append_of_mem member with ⟨before, after, parts⟩
  rcases reached.fits_of_append parts with ⟨unread, parameters, carried, same⟩
  -- What finds nothing read cannot have happened after the parameters were read.
  have fits_later {happening : Happening Body Parameters User} (later : happening ∈ after) :
      ∃ earlier,
        Fits execution.configured initial state.snapshots earlier happening ∧
          ¬ Unread earlier := by
    rcases List.append_of_mem later with ⟨between, rest, rfl⟩
    rw [← List.cons_append, ← List.append_assoc] at parts
    refine ⟨_, reached.fits_of_append parts, ?_⟩
    intro unread
    exact unread preparation.read (List.mem_append_right _ List.mem_cons_self)
  have readOnce : Unread after := by
    intro values later
    rcases fits_later later with ⟨earlier, ⟨unread, -⟩, read⟩
    exact read unread
  have bodiesBefore : ∀ happening ∈ after, ¬ happening.OfDeclaredBody := by
    intro happening later ofBody
    rcases fits_later later with ⟨earlier, fits, read⟩
    exact read (fits.unread ofBody)
  cases preparation.carried.symm.trans carried
  refine ⟨⟨_, before, after, carried, same ▸ parts, ⟨unread, readOnce⟩, bodiesBefore⟩, rfl, ?_⟩
  rw [Receipt.read, ← same]
  exact preparation.materialized

/-- An isolated action is given the live values of one moment, after all declared bodies.  Snapshots
keep what they were taken of, and nothing but changes has an effect on live graphs; a set puts its
value there. -/
theorem Reachable.snapshot_isolation (reached : Reachable execution initial state) :
    Isolated execution.configured initial state := by
  have asked := reached.readBefore.holds
  constructor
  case create =>
    intro action values next rest
    rw [rest] at asked
    exact reached.receives asked
  case perform =>
    intro action values next rest
    rw [rest] at asked
    exact reached.receives asked
  case kept =>
    intro before handle number after parts
    have kept := reached.fits_of_append parts
    refine ⟨kept, ?_⟩
    intro decode result member
    rcases List.append_of_mem member with ⟨earlier, later, parts⟩
    rcases reached.fits_of_append parts with ⟨values, present, rfl⟩
    cases kept.symm.trans present
    rfl
  case live =>
    intro graph
    rw [reached.graphs_eq]
  case set =>
    intro before author handle key value after encoded parts encodes spared
    rw [reached.graphs_eq, parts]
    exact member?_valuesAfter_set initial encodes spared

end

/-! ## A change between the snapshot and the run -/

namespace Printing

/-- An action that takes all values as they are. -/
def print : IsolatedAction Json := ⟨"Print", .decoded⟩

def sheet : IsolatedParameters Json := ⟨0, print⟩

/-- A task that composes its sheet and then prints it. -/
def printing : Execution Unit Json :=
  { settings := .default
    configured :=
      { task := ⟨⟨10⟩, ":print"⟩
        type := ⟨⟨⟨1⟩, "Sheet", false, true, [.standard "compose" ()]⟩, []⟩
        parameters := some sheet }
    inputs := none }

/-- The sheet as the declared body composes it. -/
def composed : Json := .object [("text", .text "final")]

/-- The call by which the declared body composes the sheet. -/
def compose : Happening Unit Json Unit :=
  .changed .declaredBody sheet (.set "text" (.plain (.text "final")))

/-- Another spoils the sheet after it was read, and what is printed is what the declared body
composed before. -/
theorem prints_composed :
    ∃ state : Sharing Unit Json Unit,
      Reachable printing (fun _ => .null) state ∧
        (∃ next, state.rest = .perform print composed next) ∧
        state.graphs 0 = .text "spoiled" ∧
        ∃ receipt : Receipt printing.configured (fun _ => .null) state.history,
          compose ∈ receipt.before ∧ receipt.read = composed := by
  have began :
      Reachable printing (fun _ => .null)
        (start printing fun _ => .null : Sharing Unit Json Unit) :=
    .start
  have looked := began.act .classInfo nofun
  have entered := looked.act .acquire nofun
  have composing := entered.act .report nofun
  have set :=
    composing.change .declaredBody sheet (.set "text" (.plain (.text "final")))
      fun _ => ⟨_, _, _, _, rfl⟩
  have ended := set.act (.invoke .succeeded) nofun
  have recorded := ended.act .record nofun
  have next := recorded.act .report nofun
  have read := next.read rfl
  have spoiled := read.change (.other ()) sheet (.update fun _ => .text "spoiled") nofun
  have reported := spoiled.act .report nofun
  have released := reported.act .release nofun
  have created := released.act (.create .succeeded) nofun
  rcases created.snapshot_isolation.perform print composed _ rfl with ⟨receipt, -, materialized⟩
  refine
    ⟨_, created, ⟨_, rfl⟩, rfl, receipt, receipt.mem_before ?_ trivial,
      Decoding.decoded.inj materialized⟩
  -- Eight things have happened since.
  iterate 8 apply List.mem_append_left
  exact List.mem_append_right _ (List.mem_singleton_self compose)

end Printing

end Sharing

end TaskDispatch
