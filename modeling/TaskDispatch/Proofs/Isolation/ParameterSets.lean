import Mathlib.Data.List.Induction
import TaskDispatch.Proofs.Execution.Snapshot

/-!
# Parameters that are set one after the other

Several handles may lead to one live graph, and through each of them members of the graph are set.
What the graph is then depends on the calls alone: under a key that was set it holds what was set
there last, and under any other key what it held before, which is nothing if it was no object.  The
first call makes an object of the graph, so this is so whatever the graph was.

Two neighbouring calls for different keys can therefore change places, and a call that is made again
at once changes nothing.  Both hold of the graphs themselves and not only of what is found in them.
-/

namespace TaskDispatch

variable {Parameters : Type}

/-! ## Members -/

namespace Json

/-- The members of an object; any other value has none. -/
def entries : Json → List (String × Json)
  | .object members => members
  | _ => []

/-- True if the members of an object are in the order of their keys, each key once. -/
def KeysOrdered (json : Json) : Prop := json.entries.Pairwise fun left right => left.1 < right.1

theorem mem_insertMember
    {key : String}
    {value : Json}
    {members : List (String × Json)}
    {entry : String × Json}
    (member : entry ∈ insertMember key value members) :
    entry = (key, value) ∨ entry ∈ members := by
  induction members with
  | nil => simpa [insertMember] using member
  | cons head members ih =>
      unfold insertMember at member
      grind

theorem ordered_insertMember
    (key : String)
    (value : Json)
    {members : List (String × Json)}
    (ordered : members.Pairwise fun left right => left.1 < right.1) :
    (insertMember key value members).Pairwise fun left right => left.1 < right.1 := by
  induction members with
  | nil => simp [insertMember]
  | cons head members ih =>
      rcases List.pairwise_cons.mp ordered with ⟨first, rest⟩
      unfold insertMember
      split
      case isTrue before =>
        refine List.pairwise_cons.mpr ⟨?_, ordered⟩
        intro entry member
        rcases List.mem_cons.mp member with rfl | later
        · exact before
        · exact String.lt_trans before (first entry later)
      case isFalse notBefore =>
        split
        case isTrue same =>
          subst same
          exact List.pairwise_cons.mpr ⟨first, rest⟩
        case isFalse different =>
          refine List.pairwise_cons.mpr ⟨?_, ih rest⟩
          intro entry member
          rcases mem_insertMember member with rfl | later
          · grind
          · exact first entry later

/-- Of two values put under one key the later one stays. -/
theorem insertMember_overwrites
    (key : String)
    (earlier later : Json)
    (members : List (String × Json)) :
    insertMember key later (insertMember key earlier members) = insertMember key later members := by
  induction members with
  | nil => simp [insertMember]
  | cons head members ih =>
      obtain ⟨key', value'⟩ := head
      by_cases before : key < key'
      · simp [insertMember, before]
      · by_cases same : key = key'
        · simp [insertMember, same]
        · simp [insertMember, before, same, ih]

/-- Members under different keys find the same places in either order. -/
theorem insertMember_comm
    {key key' : String}
    (different : key ≠ key')
    (value value' : Json)
    (members : List (String × Json)) :
    insertMember key value (insertMember key' value' members) =
      insertMember key' value' (insertMember key value members) := by
  induction members with
  | nil => grind [insertMember]
  | cons head members ih => grind [insertMember]

end Json

/-! ## One graph -/

namespace LiveGraph

/-- Setting a member keeps what members there are. -/
theorem set_eq (key : String) (value graph : Json) :
    set key value graph = .object (Json.insertMember key value graph.entries) := by
  cases graph <;> rfl

theorem keysOrdered_set
    (key : String)
    (value : Json)
    {graph : Json}
    (ordered : graph.KeysOrdered) :
    (set key value graph).KeysOrdered := by
  rw [set_eq]
  exact Json.ordered_insertMember key value ordered

theorem set_overwrites (key : String) (earlier later graph : Json) :
    set key later (set key earlier graph) = set key later graph := by
  simp only [set_eq, Json.entries, Json.insertMember_overwrites]

theorem set_comm {key key' : String} (different : key ≠ key') (value value' graph : Json) :
    set key value (set key' value' graph) = set key' value' (set key value graph) := by
  simp only [set_eq, Json.entries, Json.insertMember_comm different]

end LiveGraph

namespace GraphChange

/-- To set a member again to the same value changes nothing. -/
theorem apply_set_again (key : String) (value : NativeValue) (graph : Json) :
    (set key value).apply ((set key value).apply graph) = (set key value).apply graph := by
  cases encodes : value.toJson with
  | ok encoded => simp only [apply_set_of_ok encodes, LiveGraph.set_overwrites]
  | error problem => simp only [apply_set_of_error encodes]

theorem apply_set_comm
    {key key' : String}
    (different : key ≠ key')
    (value value' : NativeValue)
    (graph : Json) :
    (set key value).apply ((set key' value').apply graph) =
      (set key' value').apply ((set key value).apply graph) := by
  cases encodes : value.toJson with
  | error problem => simp only [apply_set_of_error encodes]
  | ok encoded =>
      cases encodes' : value'.toJson with
      | error problem => simp only [apply_set_of_error encodes']
      | ok encoded' =>
          simp only [apply_set_of_ok encodes, apply_set_of_ok encodes',
            LiveGraph.set_comm different]

end GraphChange

/-! ## Handles -/

/-- What a handle shows of its live graph. -/
def IsolatedParameters.current
    (parameters : IsolatedParameters Parameters)
    (graphs : GraphId → Json) :
    Json :=
  graphs parameters.graph

/-- True of two handles to one live graph. -/
def IsolatedParameters.Clones (parameters other : IsolatedParameters Parameters) : Prop :=
  parameters.graph = other.graph

/-- A call that sets a member through a handle. -/
structure SetCall (Parameters : Type) where
  handle : IsolatedParameters Parameters
  key : String
  value : NativeValue

namespace SetCall

/-- The JSON form of the value, if it has one. -/
def encoded? (call : SetCall Parameters) : Option Json := call.value.toJson.toOption

/-- The live graphs after a call. -/
def perform (graphs : GraphId → Json) (call : SetCall Parameters) : GraphId → Json :=
  Function.update graphs call.handle.graph
    ((GraphChange.set call.key call.value).apply (graphs call.handle.graph))

/-- The live graphs after some calls. -/
def performAll (graphs : GraphId → Json) (calls : List (SetCall Parameters)) : GraphId → Json :=
  calls.foldl perform graphs

/-- What was set last under a key. -/
def lastSet (key : String) (calls : List (SetCall Parameters)) : Option Json :=
  (calls.filter fun call => call.key = key).getLast?.bind encoded?

variable {graphs : GraphId → Json} {call first second : SetCall Parameters}
variable {calls : List (SetCall Parameters)}

theorem lastSet_concat (key : String) (calls : List (SetCall Parameters)) :
    lastSet key (calls ++ [call]) =
      if call.key = key then call.encoded? else lastSet key calls := by
  unfold lastSet
  split
  case isTrue same => simp [same]
  case isFalse other => simp [other]

theorem performAll_concat :
    performAll graphs (calls ++ [call]) = perform (performAll graphs calls) call :=
  List.foldl_concat ..

theorem performAll_append (earlier later : List (SetCall Parameters)) :
    performAll graphs (earlier ++ later) = performAll (performAll graphs earlier) later :=
  List.foldl_append ..

/-- True of a call through a clone of a handle, with a value that has a JSON form. -/
structure SetsOn (parameters : IsolatedParameters Parameters) (call : SetCall Parameters) :
    Prop where
  clone : call.handle.Clones parameters
  encodes : ∃ value, call.value.toJson = .ok value

section Current

variable {parameters : IsolatedParameters Parameters}

/-- A call sets a member of the graph that its handle leads to. -/
theorem SetsOn.exists_current_perform
    (sets : call.SetsOn parameters)
    (graphs : GraphId → Json) :
    ∃ value,
      call.encoded? = some value ∧
        parameters.current (perform graphs call) =
          LiveGraph.set call.key value (parameters.current graphs) := by
  rcases sets with ⟨clone, value, encodes⟩
  refine ⟨value, ?_, ?_⟩
  · rw [encoded?, encodes, Except.toOption]
  · unfold IsolatedParameters.current perform
    rw [← clone, Function.update_self, GraphChange.apply_set_of_ok encodes]

/-- It leaves every other graph alone. -/
theorem current_performAll_other (others : ∀ call ∈ calls, ¬ call.handle.Clones parameters) :
    parameters.current (performAll graphs calls) = parameters.current graphs := by
  induction calls using List.reverseRecOn with
  | nil => rfl
  | append_singleton calls call ih =>
      rcases List.forall_mem_append.mp others with ⟨before, last⟩
      have other := last call (List.mem_singleton_self call)
      rw [performAll_concat, ← ih before]
      exact Function.update_of_ne (Ne.symm other) ..

/-- Under each key there is what was set last, and else what was there before. -/
theorem member?_performAll
    (sets : ∀ call ∈ calls, call.SetsOn parameters)
    (key : String) :
    (parameters.current (performAll graphs calls)).member? key =
      (lastSet key calls).or ((parameters.current graphs).member? key) := by
  induction calls using List.reverseRecOn with
  | nil => rfl
  | append_singleton calls call ih =>
      rcases List.forall_mem_append.mp sets with ⟨before, last⟩
      rcases (last call (List.mem_singleton_self call)).exists_current_perform
          (performAll graphs calls) with ⟨value, encodes, performed⟩
      rw [performAll_concat, performed, LiveGraph.member?_set, ih before, lastSet_concat]
      by_cases same : call.key = key
      · simp [same, encodes]
      · simp [same, Ne.symm same]

theorem keysOrdered_performAll
    (sets : ∀ call ∈ calls, call.SetsOn parameters)
    (ordered : (parameters.current graphs).KeysOrdered) :
    (parameters.current (performAll graphs calls)).KeysOrdered := by
  induction calls using List.reverseRecOn with
  | nil => exact ordered
  | append_singleton calls call ih =>
      rcases List.forall_mem_append.mp sets with ⟨before, last⟩
      rcases (last call (List.mem_singleton_self call)).exists_current_perform
          (performAll graphs calls) with ⟨value, -, performed⟩
      rw [performAll_concat, performed]
      exact LiveGraph.keysOrdered_set _ _ (ih before)

/-- The last call leaves an object. -/
theorem exists_object_performAll
    (graphs : GraphId → Json)
    (sets : ∀ call ∈ calls, call.SetsOn parameters)
    (some : calls ≠ []) :
    ∃ members, parameters.current (performAll graphs calls) = .object members := by
  rcases List.eq_nil_or_concat calls with rfl | ⟨earlier, call, rfl⟩
  · exact absurd rfl some
  · rw [List.concat_eq_append] at sets ⊢
    rcases (sets call (by simp)).exists_current_perform (performAll graphs earlier) with
      ⟨value, -, performed⟩
    rw [performAll_concat, performed, LiveGraph.set_eq]
    exact ⟨_, rfl⟩

end Current

/-! ## Neighbouring calls -/

theorem perform_comm (different : first.key ≠ second.key) :
    perform (perform graphs first) second = perform (perform graphs second) first := by
  by_cases same : first.handle.graph = second.handle.graph
  · simp only [perform, same, Function.update_self, Function.update_idem,
      GraphChange.apply_set_comm different]
  · simp only [perform, Function.update_of_ne same, Function.update_of_ne (Ne.symm same)]
    exact Function.update_comm same ..

theorem perform_again
    (clones : first.handle.Clones second.handle)
    (key : first.key = second.key)
    (value : first.value = second.value) :
    perform (perform graphs first) second = perform graphs first := by
  have graph : first.handle.graph = second.handle.graph := clones
  simp only [perform, graph, key, value, Function.update_self, Function.update_idem,
    GraphChange.apply_set_again]

/-- What handles to one live graph show after members of it were set through them.  It is an object,
which holds under each key what was set there last, and else what was there before; graphs of other
handles are as they were.  Neighbouring calls for different keys can change places, and a call made
again at once can be left out, whatever the graphs were. -/
theorem sets_overwrite
    (graphs : GraphId → Json)
    (parameters : IsolatedParameters Parameters)
    (calls : List (SetCall Parameters))
    (some : calls ≠ [])
    (sets : ∀ call ∈ calls, call.SetsOn parameters) :
    (∃ members,
      (∀ clone : IsolatedParameters Parameters,
        clone.Clones parameters → clone.current (performAll graphs calls) = .object members) ∧
      (∀ key,
        Json.memberOf key members =
          (lastSet key calls).or ((parameters.current graphs).member? key)) ∧
      ((parameters.current graphs).KeysOrdered → (Json.object members).KeysOrdered)) ∧
    (∀ other : IsolatedParameters Parameters,
      ¬ other.Clones parameters → other.current (performAll graphs calls) = other.current graphs) ∧
    (∀ (earlier later : List (SetCall Parameters)) (first second : SetCall Parameters),
      first.key ≠ second.key →
        performAll graphs (earlier ++ first :: second :: later) =
          performAll graphs (earlier ++ second :: first :: later)) ∧
    ∀ (earlier later : List (SetCall Parameters)) (first second : SetCall Parameters),
      first.handle.Clones second.handle → first.key = second.key → first.value = second.value →
        performAll graphs (earlier ++ first :: second :: later) =
          performAll graphs (earlier ++ first :: later) := by
  refine ⟨?members, ?others, ?comm, ?again⟩
  case members =>
    rcases exists_object_performAll graphs sets some with ⟨members, object⟩
    refine ⟨members, ?_, ?_, ?_⟩
    · intro clone same
      rw [← object]
      exact congrArg (performAll graphs calls) same
    · intro key
      rw [← member?_performAll sets key, object]
      rfl
    · intro ordered
      rw [← object]
      exact keysOrdered_performAll sets ordered
  case others =>
    intro other different
    refine current_performAll_other fun call member same => different ?_
    exact same.symm.trans (sets call member).clone
  case comm =>
    intro earlier later first second different
    simp only [performAll_append]
    unfold performAll
    rw [List.foldl_cons, List.foldl_cons, List.foldl_cons, List.foldl_cons,
      perform_comm different]
  case again =>
    intro earlier later first second clones key value
    simp only [performAll_append]
    unfold performAll
    rw [List.foldl_cons, List.foldl_cons, List.foldl_cons, perform_again clones key value]

end SetCall

/-! ## A number that becomes an object -/

namespace Renaming

/-- An action that takes whatever it is given. -/
def action : IsolatedAction Json := ⟨"Rename", .decoded⟩

def live : IsolatedParameters Json := ⟨0, action⟩

/-- Calls through two handles, the last of which sets a member again. -/
def calls : List (SetCall Json) :=
  [⟨live, "to", .integer 1⟩, ⟨⟨0, action⟩, "from", .integer 2⟩, ⟨live, "to", .integer 3⟩]

/-- The graph is a number at first, and an object of two members in the end. -/
theorem number_becomes_object :
    calls ≠ [] ∧
      (∀ call ∈ calls, call.SetsOn live) ∧
      ∃ members,
        live.current (SetCall.performAll (fun _ => .ofInt 7) calls) = .object members ∧
          Json.memberOf "to" members = some (.ofInt 3) ∧
          Json.memberOf "from" members = some (.ofInt 2) ∧
          Json.memberOf "other" members = none ∧
          (Json.object members).KeysOrdered := by
  have some : calls ≠ [] := List.cons_ne_nil _ _
  have sets : ∀ call ∈ calls, call.SetsOn live := by
    simp only [calls, List.forall_mem_cons]
    exact ⟨⟨rfl, _, rfl⟩, ⟨rfl, _, rfl⟩, ⟨rfl, _, rfl⟩, nofun⟩
  rcases (SetCall.sets_overwrite (fun _ => .ofInt 7) live calls some sets).1 with
    ⟨members, shown, found, ordered⟩
  exact
    ⟨some, sets, members, shown live rfl, found "to", found "from", found "other", ordered .nil⟩

end Renaming

end TaskDispatch
