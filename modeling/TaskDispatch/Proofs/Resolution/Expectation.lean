import Mathlib.Data.List.Nodup
import Mathlib.Data.List.Perm.Subperm
import TaskDispatch.Resolution.Resolver

/-!
# Expected tasks

A resolution is judged by the tasks that someone expects it to have found.  Two tasks are the same
if their identities are; a path is only a label.  `Resolution.Matches` says what should be accepted:
the resolved tasks are those expected, each once and in any order.

`Resolution.hasTasks` compares the paths as sets, and then counts.  It accepts every resolution that
matches.  A resolution that it accepts without a match has found a task nobody expected, in whose
place another task of the same path was expected.  So it is exact where no such pair exists, and
`Lookalikes` is a resolution of one task where it is not.
-/

namespace TaskDispatch

namespace Resolution

/-- True if the resolved tasks are those expected, each once and in any order. -/
def Matches (resolution : Resolution) (expected : List Task) : Prop :=
  (resolution.tasks.map Task.identity).Perm (expected.map Task.identity)

/-- True of a resolved task that is not expected, while another task of its path is. -/
def Mistaken (resolution : Resolution) (expected : List Task) (task : Task) : Prop :=
  task ∈ resolution.tasks ∧
    task.identity ∉ expected.map Task.identity ∧
    ∃ other ∈ expected, other.path = task.path

variable {resolution : Resolution} {expected : List Task}

/-- Where no two nodes have the same key, no two of the resolved tasks have the same identity. -/
theorem nodup_identities
    (distinct : (resolution.nodes.map Node.key).Nodup) :
    (resolution.tasks.map Task.identity).Nodup := by
  have keys :
      ((resolution.tasks.map Task.identity).map NodeKey.task).Sublist
        (resolution.nodes.map Node.key) := by
    unfold tasks
    induction resolution.nodes with
    | nil => exact .slnil
    | cons node nodes ih =>
        cases node with
        | task member => exact ih.cons_cons _
        | work action => exact ih.cons _
  exact List.Nodup.of_map NodeKey.task (distinct.sublist keys)

theorem hasTasks_iff :
    resolution.hasTasks expected = true ↔
      (∀ path, path ∈ resolution.tasks.map Task.path ↔ path ∈ expected.map Task.path) ∧
        resolution.tasks.length = expected.length := by
  simp only [hasTasks, Bool.and_eq_true, List.all_eq_true, List.contains_iff_mem, beq_iff_eq]
  constructor
  · rintro ⟨⟨found, wanted⟩, count⟩
    exact ⟨fun path => ⟨found path, wanted path⟩, count⟩
  · rintro ⟨same, count⟩
    exact ⟨⟨fun path => (same path).mp, fun path => (same path).mpr⟩, count⟩

/-- What should be accepted is what is accepted, unless another task of the same path was expected
in place of one that was resolved. -/
theorem matches_iff_hasTasks
    (distinct : (resolution.nodes.map Node.key).Nodup)
    (labelled :
      ∀ task ∈ resolution.tasks, ∀ other ∈ expected,
        task.identity = other.identity → task.path = other.path) :
    resolution.Matches expected ↔
      resolution.hasTasks expected = true ∧
        ∀ task, ¬ resolution.Mistaken expected task := by
  constructor
  · intro same
    refine ⟨hasTasks_iff.mpr ⟨fun path => ?_, ?_⟩, ?_⟩
    · constructor
      · intro found
        rcases List.mem_map.mp found with ⟨task, resolved, rfl⟩
        have known := same.mem_iff.mp (List.mem_map_of_mem resolved)
        rcases List.mem_map.mp known with ⟨other, wanted, identity⟩
        rw [labelled task resolved other wanted identity.symm]
        exact List.mem_map_of_mem wanted
      · intro wanted
        rcases List.mem_map.mp wanted with ⟨other, member, rfl⟩
        have known := same.mem_iff.mpr (List.mem_map_of_mem member)
        rcases List.mem_map.mp known with ⟨task, resolved, identity⟩
        rw [← labelled task resolved other member identity]
        exact List.mem_map_of_mem resolved
    · simpa using same.length_eq
    · rintro task ⟨resolved, unexpected, -⟩
      exact unexpected (same.mem_iff.mp (List.mem_map_of_mem resolved))
  · rintro ⟨accepted, unmistaken⟩
    rcases hasTasks_iff.mp accepted with ⟨paths, count⟩
    -- a resolved task shares its path with an expected one, which can only be itself
    have known : resolution.tasks.map Task.identity ⊆ expected.map Task.identity := by
      intro identity member
      rcases List.mem_map.mp member with ⟨task, resolved, rfl⟩
      have wanted := (paths task.path).mp (List.mem_map_of_mem resolved)
      rcases List.mem_map.mp wanted with ⟨other, present, path⟩
      by_contra unexpected
      exact unmistaken task ⟨resolved, unexpected, other, present, path⟩
    refine ((nodup_identities distinct).subperm known).perm_of_length_le ?_
    simpa using Nat.le_of_eq count.symm

end Resolution

/-! ## Tasks that look alike -/

namespace Lookalikes

def build : Task := ⟨⟨1⟩, ":build"⟩

/-- Another task with the same path. -/
def rebuild : Task := ⟨⟨2⟩, ":build"⟩

def found (tasks : List Task) : Resolution :=
  (Resolver.resolveRoot [] (tasks.map .task)).resolution

/-- Both tasks are found, and both are expected, in another order. -/
theorem both_accepted :
    ((found [build, rebuild]).nodes.map Node.key).Nodup ∧
      (found [build, rebuild]).tasks.map Task.path = [":build", ":build"] ∧
      (found [build, rebuild]).hasTasks [rebuild, build] = true := by
  have distinct : ((found [build, rebuild]).nodes.map Node.key).Nodup := by decide
  have labelled :
      ∀ task ∈ (found [build, rebuild]).tasks, ∀ other ∈ [rebuild, build],
        task.identity = other.identity → task.path = other.path := by
    decide
  have same : (found [build, rebuild]).Matches [rebuild, build] := .swap _ _ _
  exact ⟨distinct, rfl, ((Resolution.matches_iff_hasTasks distinct labelled).mp same).1⟩

/-- One of them is found and the other one expected, which is accepted although it is no match. -/
theorem accepted_in_place_of_another :
    ((found [build]).nodes.map Node.key).Nodup ∧
      (found [build]).tasks = [build] ∧
      build.identity ≠ rebuild.identity ∧
      (found [build]).hasTasks [rebuild] = true ∧
      ¬ (found [build]).Matches [rebuild] := by
  refine ⟨by decide, rfl, by decide, by decide, ?_⟩
  intro same
  exact absurd (List.singleton_perm_singleton.mp same) (by decide)

end Lookalikes

end TaskDispatch
