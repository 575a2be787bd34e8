import TaskDispatch.Proofs.Resolution.Invariants
import TaskDispatch.Proofs.Resolution.Siblings

/-!
# The log of a resolution

While a context is used it notes each node that it discovers, each failure, each value that it
passes over, and each declaration that is left out because of an error.  A `Note` is what such an
event is about.  The events of a context are those of its notes, and what the context holds can be
read off the notes too (`Context.Logs`); so the log and the lists of a resolution cannot disagree.

The main statement, `Resolver.log_truthful`, compares the two as a reader of the log would: it picks
events by level and message.
-/

namespace TaskDispatch

/-- True of events of a level with a message. -/
def Event.carries (level : Level) (message : String) (event : Event) : Bool :=
  event.level == level && event.message == message

theorem Event.filter_carries_eq_nil
    {events : List Event}
    {message : String}
    (apart : ∀ event ∈ events, event.message ≠ message)
    (level : Level) :
    events.filter (carries level message) = [] := by
  refine List.filter_eq_nil_iff.mpr fun event member carried => apart event member ?_
  simpa using (Bool.and_eq_true_iff.mp carried).2

/-- What an event of a context is about. -/
inductive Note where
  | discovered (node : Node)
  | failed (failure : ResolutionFailure)
  | ignored (value : ForeignValue)
  | skipped (error : UnsupportedDependency)

namespace Note

/-- The event of a note, in the log of a context with this owner. -/
def event (owner : Option String) : Note → Event
  | .discovered node => Context.discovered node
  | .failed failure => Context.failed owner failure.declaration failure.cause
  | .ignored value => Context.ignored value
  | .skipped error => Context.skipped error

def node? : Note → Option Node
  | .discovered node => some node
  | _ => none

def failure? : Note → Option ResolutionFailure
  | .failed failure => some failure
  | _ => none

def error? : Note → Option UnsupportedDependency
  | .skipped error => some error
  | _ => none

/-- The events that a reader picks are those of the notes that a view shows, if this is so for each
note. -/
theorem filter_event
    {Shown : Type}
    {owner : Option String}
    {picks : Event → Bool}
    {view : Note → Option Shown}
    {shown : Shown → Event}
    (agrees :
      ∀ note, [note.event owner].filter picks = (view note).toList.map shown)
    (notes : List Note) :
    (notes.map (event owner)).filter picks = (notes.filterMap view).map shown := by
  induction notes with
  | nil => rfl
  | cons note notes ih =>
      have first := agrees note
      rw [List.map_cons, ← List.singleton_append, List.filter_append, first, ih]
      cases seen : view note <;> simp [seen]

end Note

/-! ## What a context notes -/

/-- True of notes whose events are those of a context, and which show what the context holds. -/
structure Context.Logs (context : Context) (notes : List Note) : Prop where
  events : context.events = notes.map (Note.event context.ownerPath)
  nodes : context.nodes = notes.filterMap Note.node?
  failures : context.failures = notes.filterMap Note.failure?

namespace Context.Logs

variable
  {context : Context}
  {notes : List Note}

theorem fresh (owner : Option Task) : (Context.fresh owner).Logs [] := ⟨rfl, rfl, rfl⟩

/-- A node is noted if it is new. -/
theorem record (logs : context.Logs notes) (node : Node) :
    ∃ later, (context.record node).Logs (notes ++ later) ∧ later.filterMap Note.error? = [] := by
  unfold Context.record
  split
  · exact ⟨[], by simpa using logs, rfl⟩
  · refine ⟨[.discovered node], ⟨?_, ?_, ?_⟩, rfl⟩
    · simp [logs.events, Note.event, ownerPath]
    · simp [logs.nodes, Note.node?]
    · simp [logs.failures, Note.failure?]

theorem visitFailure (logs : context.Logs notes) (cause : Cause) :
    (context.visitFailure cause).Logs
      (notes ++ [.failed ⟨context.currentDeclaration, cause⟩]) := by
  refine ⟨?_, ?_, ?_⟩
  · simp [Context.visitFailure, logs.events, Note.event, ownerPath]
  · simp [logs.nodes, Note.node?]
  · simp [Context.visitFailure, logs.failures, Note.failure?]

/-- A value that is passed over is noted. -/
theorem ignore (logs : context.Logs notes) (value : ForeignValue) :
    ({ context with events := context.events ++ [ignored value] } : Context).Logs
      (notes ++ [.ignored value]) := by
  refine ⟨?_, ?_, ?_⟩
  · simp [logs.events, Note.event, ownerPath]
  · simp [logs.nodes, Note.node?]
  · simp [logs.failures, Note.failure?]

theorem afterSkipping (logs : context.Logs notes) (error : UnsupportedDependency) :
    (context.afterSkipping error).Logs (notes ++ [.skipped error]) := by
  refine ⟨?_, ?_, ?_⟩
  · simp [Context.afterSkipping, logs.events, Note.event, ownerPath]
  · simp [Context.afterSkipping, logs.nodes, Note.node?]
  · simp [Context.afterSkipping, logs.failures, Note.failure?]

end Context.Logs

/-- A walk goes on with the notes of a context, and leaves out no declaration. -/
theorem Walk.logs
    {contributors : Contributors}
    {context after : Context}
    {errand : Errand}
    {moments : List Moment}
    {result : AddResult}
    (walk : Walk contributors context errand moments after result)
    {notes : List Note}
    (logs : context.Logs notes) :
    ∃ later, after.Logs (notes ++ later) ∧ later.filterMap Note.error? = [] := by
  have unchanged {context : Context} {notes : List Note} (logs : context.Logs notes) :
      ∃ later, context.Logs (notes ++ later) ∧ later.filterMap Note.error? = [] :=
    ⟨[], by simpa using logs, rfl⟩
  have onward {after : Context} {notes earlier : List Note}
      (noError : earlier.filterMap Note.error? = [])
      (rest :
        ∃ later, after.Logs ((notes ++ earlier) ++ later) ∧ later.filterMap Note.error? = []) :
      ∃ later, after.Logs (notes ++ later) ∧ later.filterMap Note.error? = [] := by
    rcases rest with ⟨later, logs, stillNone⟩
    refine ⟨earlier ++ later, by simpa using logs, ?_⟩
    rw [List.filterMap_append, noError, stillNone]
    rfl
  -- Each kind of step adds what it notes; entering a visit and leaving it notes nothing.
  induction walk generalizing notes with
  | node => exact logs.record _
  | foreign => exact unchanged logs
  | known => exact unchanged logs
  | first _ _ _ ih =>
      rcases @ih notes ⟨logs.events, logs.nodes, logs.failures⟩ with
        ⟨later, logs, noError⟩
      exact ⟨later, ⟨logs.events, logs.nodes, logs.failures⟩, noError⟩
  | ignored => exact ⟨_, logs.ignore _, rfl⟩
  | supported _ _ ih => exact ih logs
  | failure => exact ⟨_, logs.visitFailure _, rfl⟩
  | finish => exact unchanged logs
  | raise => exact unchanged logs
  | add _ _ headIH tailIH =>
      rcases headIH logs with ⟨earlier, logs, noError⟩
      exact onward noError (tailIH logs)
  | maybeAdd _ _ headIH tailIH =>
      rcases headIH logs with ⟨earlier, logs, noError⟩
      exact onward noError (tailIH logs)
  | fail _ ih => exact onward rfl (ih (logs.visitFailure _))
  | declare _ ih => exact ih ⟨logs.events, logs.nodes, logs.failures⟩

namespace Context.Logs

variable
  {context : Context}
  {notes : List Note}

/-- To add a declaration leaves out none. -/
theorem add
    (logs : context.Logs notes)
    (contributors : Contributors)
    (declaration : Declaration) :
    ∃ later,
      (context.add contributors declaration).1.Logs (notes ++ later) ∧
        later.filterMap Note.error? = [] := by
  rcases context.walk_perform contributors (.add declaration) with ⟨moments, walk⟩
  exact walk.logs logs

/-- The errors collected are those of the declarations noted as left out. -/
theorem addAll
    (logs : context.Logs notes)
    (contributors : Contributors)
    (declarations : List Declaration) :
    ∃ later,
      (context.addAll contributors declarations).1.Logs (notes ++ later) ∧
        (context.addAll contributors declarations).2 = later.filterMap Note.error? := by
  induction declarations generalizing context notes with
  | nil => exact ⟨[], (List.append_nil notes).symm ▸ logs, rfl⟩
  | cons declaration declarations ih =>
      rcases logs.add contributors declaration with ⟨earlier, stepLogs, noError⟩
      cases answer : (context.add contributors declaration).2 with
      | ok =>
          rw [addAll_cons_of_ok answer]
          rcases ih stepLogs with ⟨later, restLogs, errors⟩
          refine ⟨earlier ++ later, by simpa using restLogs, ?_⟩
          rw [errors, List.filterMap_append, noError, List.nil_append]
      | error error =>
          rw [addAll_cons_of_error answer]
          rcases ih (stepLogs.afterSkipping error) with ⟨later, restLogs, errors⟩
          refine ⟨earlier ++ .skipped error :: later, by simpa using restLogs, ?_⟩
          rw [List.filterMap_append, noError, List.nil_append]
          exact congrArg (error :: ·) errors

theorem reportSelf
    (logs : context.Logs notes)
    (policy : SelfDependencyPolicy)
    (owner : Task) :
    ∃ later,
      (Resolver.reportSelf policy owner context).Logs (notes ++ later) ∧
        later.filterMap Note.error? = [] := by
  unfold Resolver.reportSelf
  split
  · exact ⟨_, logs.visitFailure _, rfl⟩
  · exact ⟨[], by simpa using logs, rfl⟩

end Context.Logs

/-- Additions leave the owner as it is, and discover no node twice. -/
theorem Context.addAll_fresh
    (contributors : Contributors)
    (owner : Option Task)
    (declarations : List Declaration) :
    ((fresh owner).addAll contributors declarations).1.owner = owner ∧
      (((fresh owner).addAll contributors declarations).1.nodes.map Node.key).Nodup := by
  rcases (InStep.fresh owner).addAll_declarations contributors declarations with
    ⟨⟨past, inStep⟩, -⟩
  have sound := ((Ready.fresh contributors owner).performAll (declarations.map .add)).sound
  exact ⟨inStep.owner.trans sound.owner, inStep.nodes ▸ sound.distinct⟩

/-! ## What a reader of the log picks -/

namespace Resolver

/-- True of a log whose events are as the lists of a resolution have it. -/
structure Tells (owner : Option String) (run : ResolutionRun) : Prop where
  /-- There is one event for each node discovered, in the order of discovery. -/
  discovered :
    run.context.events.filter (Event.carries .trace "Resolved dependency node") =
      run.context.nodes.map fun node =>
        ⟨.trace, "Resolved dependency node", [("node", .text node.display)]⟩
  /-- No node is discovered twice. -/
  once : (run.context.nodes.map Node.key).Nodup
  failures :
    run.context.events.filter (Event.carries .debug "Failed to visit dependency") =
      run.resolution.failures.map fun failure =>
        ⟨.debug, "Failed to visit dependency",
          optionalField "task" owner ++
            [("declaration", .text failure.declaration), ("error", .text failure.cause.outermost)]⟩
  unsupported :
    run.context.events.filter (Event.carries .warn "Skipping unsupported dependency declaration") =
      run.resolution.unsupported.map fun error =>
        ⟨.warn, "Skipping unsupported dependency declaration", [("error", .text error.message)]⟩

/-- True of a resolution that lists what its context has noted, and has logged more after it. -/
structure Lists
    (owner : Option String)
    (notes : List Note)
    (more : List Event)
    (run : ResolutionRun) :
    Prop where
  events : run.context.events = notes.map (Note.event owner) ++ more
  nodes : run.context.nodes = notes.filterMap Note.node?
  failures : run.resolution.failures = notes.filterMap Note.failure?
  unsupported : run.resolution.unsupported = notes.filterMap Note.error?

/-- The messages of what is listed. -/
def listedMessages : List String :=
  [ "Resolved dependency node", "Failed to visit dependency",
    "Skipping unsupported dependency declaration" ]

/-- What a resolution lists is told by its log, if nothing else is logged with the same messages. -/
theorem Lists.tells
    {owner : Option String}
    {notes : List Note}
    {more : List Event}
    {run : ResolutionRun}
    (lists : Lists owner notes more run)
    (once : (run.context.nodes.map Node.key).Nodup)
    (apart : ∀ event ∈ more, event.message ∉ listedMessages) :
    Tells owner run := by
  have picked {level : Level} {message : String} (listed : message ∈ listedMessages) :
      run.context.events.filter (Event.carries level message) =
        (notes.map (Note.event owner)).filter (Event.carries level message) := by
    have nothing : more.filter (Event.carries level message) = [] :=
      Event.filter_carries_eq_nil
        (fun event member same => apart event member (same ▸ listed)) level
    rw [lists.events, List.filter_append, nothing, List.append_nil]
  constructor
  · rw [picked (by simp [listedMessages]), lists.nodes]
    exact Note.filter_event (fun note => by cases note <;> rfl) notes
  · exact once
  · rw [picked (by simp [listedMessages]), lists.failures]
    exact Note.filter_event (fun note => by cases note <;> rfl) notes
  · rw [picked (by simp [listedMessages]), lists.unsupported]
    exact Note.filter_event (fun note => by cases note <;> rfl) notes

/-- What is noted is neither the dependency of a task on itself nor a summary. -/
theorem filter_carries_notes
    (owner : Option String)
    (notes : List Note)
    (level : Level)
    {message : String}
    (other : message ∈ ["Ignoring dependency of task on itself", "Resolved task dependencies"]) :
    (notes.map (Note.event owner)).filter (Event.carries level message) = [] := by
  refine Event.filter_carries_eq_nil (fun event member same => ?_) level
  rcases List.mem_map.mp member with ⟨note, -, rfl⟩
  rw [← same] at other
  cases note <;>
    simp [Note.event, Context.discovered, Context.failed, Context.ignored, Context.skipped] at other

/-- Of nodes with distinct keys, at most one has a given key, and only if the key is known. -/
theorem map_filter_key
    {context : Context}
    (consistent : context.Consistent)
    (distinct : (context.nodes.map Node.key).Nodup)
    (key : NodeKey)
    (event : Event) :
    ((context.nodes.filter fun node => node.key == key).map fun _ => event) =
      if context.contains key then [event] else [] := by
  have count := distinct.count (a := key)
  rw [List.count, List.countP_map, List.countP_eq_length_filter] at count
  rw [List.map_const', show (fun node : Node => node.key == key) = (· == key) ∘ Node.key from rfl,
    count]
  by_cases known : key ∈ context.nodes.map Node.key
  · have found : context.contains key = true := by
      rwa [consistent.contains_iff, ← List.mem_map]
    rw [if_pos known, if_pos found, List.replicate_one]
  · have missing : ¬context.contains key = true := by
      rwa [consistent.contains_iff, ← List.mem_map]
    rw [if_neg known, if_neg missing, List.replicate_zero]

theorem reportSelf_owner (policy : SelfDependencyPolicy) (owner : Task) (context : Context) :
    (reportSelf policy owner context).owner = context.owner := by
  unfold reportSelf
  split <;> rfl

theorem consistent_reportSelf
    {context : Context}
    (consistent : context.Consistent)
    (policy : SelfDependencyPolicy)
    (owner : Task) :
    (reportSelf policy owner context).Consistent := by
  unfold reportSelf
  split
  · exact consistent
  · exact consistent

/-! ## The two kinds of resolutions -/

/-- What a resolution of a task logs after its walk. -/
def closing (owner : Task) (run : ResolutionRun) : List Event :=
  (if run.context.contains (.task owner.identity) then [ignoredSelf owner] else []) ++
    [summary owner run.resolution]

theorem message_of_mem_closing
    {owner : Task}
    {run : ResolutionRun}
    {event : Event}
    (member : event ∈ closing owner run) :
    event.message ∉ listedMessages := by
  rcases List.mem_append.mp member with warning | last
  · split at warning
    · rw [List.mem_singleton.mp warning]
      simp [ignoredSelf, listedMessages]
    · cases warning
  · rw [List.mem_singleton.mp last]
    simp [summary, listedMessages]

section Runs

variable
  (contributors : Contributors)
  (policy : SelfDependencyPolicy)
  (owner : Task)
  (declared : List Declaration)

theorem nodup_resolve :
    ((resolve contributors policy owner declared).context.nodes.map Node.key).Nodup := by
  have nodes : (resolve contributors policy owner declared).context.nodes = _ :=
    reportSelf_nodes policy owner _
  rw [nodes]
  exact (Context.addAll_fresh contributors (some owner) declared).2

theorem consistent_resolve : (resolve contributors policy owner declared).context.Consistent :=
  consistent_reportSelf
    ((Context.consistent_fresh (some owner)).addAll contributors declared) policy owner

theorem exists_lists_resolve :
    let run := resolve contributors policy owner declared
    ∃ notes, Lists (some owner.path) notes (closing owner run) run := by
  intro run
  rcases (Context.Logs.fresh (some owner)).addAll contributors declared with
    ⟨notes, added, unsupported⟩
  rcases added.reportSelf policy owner with ⟨later, logs, noError⟩
  have sameOwner := (Context.addAll_fresh contributors (some owner) declared).1
  have path := congrArg (Option.map Task.path) ((reportSelf_owner policy owner _).trans sameOwner)
  have warned :=
    map_filter_key (consistent_resolve contributors policy owner declared)
      (nodup_resolve contributors policy owner declared) (.task owner.identity)
      (ignoredSelf owner)
  refine ⟨notes ++ later, ?_, logs.nodes, logs.failures, ?_⟩
  · have events :
        run.context.events =
          _ ++ (if run.context.contains (.task owner.identity) then [ignoredSelf owner] else []) ++
            [summary owner run.resolution] :=
      congrArg (_ ++ · ++ _) warned
    rw [events, List.append_assoc, logs.events, Context.ownerPath, path]
    rfl
  · rw [List.filterMap_append, noError, List.append_nil]
    exact unsupported

theorem exists_lists_resolveRoot :
    ∃ notes, Lists none notes [] (resolveRoot contributors declared) := by
  rcases (Context.Logs.fresh none).addAll contributors declared with ⟨notes, logs, unsupported⟩
  have sameOwner := (Context.addAll_fresh contributors none declared).1
  refine ⟨notes, ?_, logs.nodes, logs.failures, unsupported⟩
  rw [List.append_nil, resolveRoot, logs.events, Context.ownerPath, sameOwner]
  rfl

end Runs

/-- The log of a resolution tells what was discovered, what failed and what was left out, each as
often and in the order in which it is listed.  Of a task it also tells whether it depends on itself,
and last how many entries the lists have. -/
theorem log_truthful (contributors : Contributors) (declared : List Declaration) :
    (∀ policy owner,
      let run := resolve contributors policy owner declared
      Tells (some owner.path) run ∧
        run.resolution.nodes =
          (run.context.nodes.filter fun node => node.key != .task owner.identity) ∧
        run.context.events.filter (Event.carries .warn "Ignoring dependency of task on itself") =
          (if run.context.contains (.task owner.identity) then
            [⟨.warn, "Ignoring dependency of task on itself", [("task", .text owner.path)]⟩]
          else []) ∧
        ∃ earlier,
          earlier.filter (Event.carries .debug "Resolved task dependencies") = [] ∧
            run.context.events =
              earlier ++
                [⟨.debug, "Resolved task dependencies",
                  [ ("task", .text owner.path),
                    ("nodes", .count run.resolution.nodes.length),
                    ("failures", .count run.resolution.failures.length),
                    ("unsupported", .count run.resolution.unsupported.length) ]⟩]) ∧
    let run := resolveRoot contributors declared
    Tells none run ∧
      run.resolution.nodes = run.context.nodes ∧
      run.context.events.filter (Event.carries .warn "Ignoring dependency of task on itself") = [] ∧
      run.context.events.filter (Event.carries .debug "Resolved task dependencies") = [] := by
  constructor
  · intro policy owner run
    rcases exists_lists_resolve contributors policy owner declared with ⟨notes, lists⟩
    have once := nodup_resolve contributors policy owner declared
    refine
      ⟨lists.tells once fun _ => message_of_mem_closing, rfl, ?_, _, ?_,
        lists.events.trans (List.append_assoc _ _ _).symm⟩
    · rw [lists.events, List.filter_append, filter_carries_notes _ _ _ (by simp), closing,
        List.filter_append]
      split <;> rfl
    · rw [List.filter_append, filter_carries_notes _ _ _ (by simp)]
      split <;> rfl
  · intro run
    rcases exists_lists_resolveRoot contributors declared with ⟨notes, lists⟩
    have once := (Context.addAll_fresh contributors none declared).2
    refine ⟨lists.tells once (by simp), rfl, ?_, ?_⟩
    · rw [lists.events, List.append_nil]
      exact filter_carries_notes _ _ _ (by simp)
    · rw [lists.events, List.append_nil]
      exact filter_carries_notes _ _ _ (by simp)

end Resolver

/-! ## What is logged of a declaration that fails, and of one that is refused -/

namespace Unsettled

/-- Two nodes are discovered, one of them the task itself, two failures are returned, and one value
is refused. -/
theorem told_in_log :
    let log := (Resolver.resolve unsettled .report app declared).context.events
    log.filter (Event.carries .trace "Resolved dependency node") =
        [ ⟨.trace, "Resolved dependency node", [("node", .text "task ':lib'")]⟩,
          ⟨.trace, "Resolved dependency node", [("node", .text "task ':app'")]⟩ ] ∧
      log.filter (Event.carries .debug "Failed to visit dependency") =
        [ ⟨.debug, "Failed to visit dependency",
            [ ("task", .text ":app"), ("declaration", .text "dependency container"),
              ("error", .text "offline") ]⟩,
          ⟨.debug, "Failed to visit dependency",
            [ ("task", .text ":app"), ("declaration", .text "<top-level>"),
              ("error", .text (Resolver.selfDependency app).outermost) ]⟩ ] ∧
      log.filter (Event.carries .warn "Skipping unsupported dependency declaration") =
        [ ⟨.warn, "Skipping unsupported dependency declaration",
            [("error", .text (seven.unsupported (some ":app")).message)]⟩ ] ∧
      log.filter (Event.carries .warn "Ignoring dependency of task on itself") =
        [⟨.warn, "Ignoring dependency of task on itself", [("task", .text ":app")]⟩] := by
  rcases (Resolver.log_truthful unsettled declared).1 .report app with ⟨tells, -, itself, -⟩
  exact ⟨tells.discovered, tells.failures, tells.unsupported, itself⟩

end Unsettled

end TaskDispatch
