import ReplicaWatch.Convergence.Teardown

/-! # The containers of a teardown

Which containers a listing of tasks leaves to be reaped, and in which order, without a word about
how they are collected (`Teardown.Collects`). A listing collects one list of containers only
(`Teardown.Collects.unique`), and that is the list that a teardown goes by
(`Teardown.liveContainers_collects`).
-/

namespace ReplicaWatch

/-- The container is behind the task, which is not observed to have shut down. A container's id is
not blank, and is known without the blanks around it. -/
def Task.Runs (task : Task) (container : String) : Prop :=
  task.observed ≠ .known .shutdown ∧
    ∃ raw, task.containerId = some raw ∧ Text.trim raw = container ∧ container ≠ ""

/-- A task has the container that it names, with no blanks around, unless nothing is left. -/
theorem Task.container?_eq_some_iff {task : Task} {container : String} :
    task.container? = some container ↔
      ∃ raw, task.containerId = some raw ∧ Text.trim raw = container ∧ container ≠ "" := by
  unfold Task.container?
  cases task.containerId with
  | none => simp
  | some raw =>
    dsimp only
    by_cases blank : Text.trim raw = ""
    · rw [if_pos (String.isEmpty_iff.mpr blank)]
      constructor
      · nofun
      · rintro ⟨_, ⟨⟩, rfl, filled⟩
        exact absurd blank filled
    · rw [if_neg (mt String.isEmpty_iff.mp blank)]
      constructor
      · rintro ⟨⟩
        exact ⟨raw, rfl, rfl, blank⟩
      · rintro ⟨_, ⟨⟩, rfl, _⟩
        rfl

theorem ReportedState.is_eq_false_iff {reported : ReportedState} {state : TaskState} :
    reported.is state = false ↔ reported ≠ .known state := by
  cases reported <;> simp [ReportedState.is, ReportedState.state?]

namespace Teardown

variable {tasks : List Task} {containers others : List String}

/-- Going through the tasks, one container is met before the other. -/
def RunsBefore (tasks : List Task) (former latter : String) : Prop :=
  ∃ earlier later, tasks = earlier ++ later ∧
    (∃ task ∈ earlier, task.Runs former) ∧ ∀ task ∈ earlier, ¬task.Runs latter

/-- The containers of the tasks that have not shut down, in the order in which they are met
first. -/
structure Collects (tasks : List Task) (containers : List String) : Prop where
  mem_iff : ∀ container, container ∈ containers ↔ ∃ task ∈ tasks, task.Runs container
  ordered : containers.Pairwise (RunsBefore tasks)

/-- Of two containers, at most one is met before the other. -/
theorem RunsBefore.asymm {former latter : String} (before : RunsBefore tasks former latter) :
    ¬RunsBefore tasks latter former := by
  obtain ⟨earlier, later, rfl, ⟨task, member, runs⟩, unmet⟩ := before
  rintro ⟨earlier', later', same, ⟨task', member', runs'⟩, unmet'⟩
  -- Of two beginnings of one list, one holds the other, and with it the task that it must not hold.
  have first : earlier <+: earlier ++ later := List.prefix_append _ _
  have second : earlier' <+: earlier ++ later := same ▸ List.prefix_append _ _
  rcases List.prefix_or_prefix_of_prefix first second with within | within
  · exact unmet' task (within.subset member) runs
  · exact unmet task' (within.subset member') runs'

namespace Collects

/-- No container is collected twice. -/
theorem nodup (collects : Collects tasks containers) : containers.Nodup := by
  apply collects.ordered.imp
  rintro container _ before rfl
  exact before.asymm before

/-- A listing collects one list of containers. -/
theorem unique (collects : Collects tasks containers) (collects' : Collects tasks others) :
    containers = others := by
  have same : containers.Perm others := by
    rw [List.perm_ext_iff_of_nodup collects.nodup collects'.nodup]
    intro container
    rw [collects.mem_iff, collects'.mem_iff]
  apply same.eq_of_pairwise _ collects.ordered collects'.ordered
  intro former latter _ _ before after
  exact absurd after before.asymm

end Collects

/-- What is left of a list without repetitions stands in the order of the first occurrences. -/
theorem eraseDups_ordered {α : Type} [DecidableEq α] (list : List α) :
    list.eraseDups.Pairwise fun former latter =>
      ∃ earlier later, list = earlier ++ later ∧ former ∈ earlier ∧ latter ∉ earlier := by
  match list with
  | [] => exact .nil
  | head :: tail =>
    rw [List.eraseDups_cons]
    refine List.pairwise_cons.mpr ⟨?_, ?_⟩
    · intro latter member
      rw [List.mem_eraseDups, List.mem_filter] at member
      refine ⟨[head], tail, rfl, List.mem_singleton_self head, ?_⟩
      simpa using member.2
    · apply (eraseDups_ordered (tail.filter fun other => !other == head)).imp_of_mem
      rintro former latter _ member ⟨earlier, later, split, met, unmet⟩
      obtain ⟨before, after, rfl, rfl, rfl⟩ := List.filter_eq_append_iff.mp split
      rw [List.mem_eraseDups, List.mem_filter] at member
      refine ⟨head :: before, after, rfl, List.mem_cons_of_mem _ (List.mem_filter.mp met).1, ?_⟩
      rw [List.mem_cons]
      rintro (rfl | early)
      · simp at member
      · exact unmet (List.mem_filter.mpr ⟨early, member.2⟩)
termination_by list.length
decreasing_by
  exact Nat.lt_succ_of_le (List.length_filter_le _ _)

/-- The containers of the tasks that have not shut down are those that some task runs. -/
theorem mem_running_iff {container : String} :
    container ∈ (tasks.filter fun task => !task.observed.is .shutdown).filterMap Task.container? ↔
      ∃ task ∈ tasks, task.Runs container := by
  simp only [List.mem_filterMap, List.mem_filter, Bool.not_eq_true', Task.Runs,
    ReportedState.is_eq_false_iff, Task.container?_eq_some_iff, and_assoc]

/-- **The containers that a teardown reaps** are those that it collects from its listing. -/
theorem liveContainers_collects (tasks : List Task) : Collects tasks (liveContainers tasks) where
  mem_iff container := by
    rw [liveContainers, List.mem_eraseDups, mem_running_iff]
  ordered := by
    apply (eraseDups_ordered _).imp
    rintro former latter ⟨earlier, later, split, met, unmet⟩
    obtain ⟨kept, _, keeps, rfl, -⟩ := List.filterMap_eq_append_iff.mp split
    obtain ⟨before, after, rfl, rfl, -⟩ := List.filter_eq_append_iff.mp keeps
    rw [mem_running_iff] at met unmet
    exact ⟨before, after, rfl, met, fun task member runs => unmet ⟨task, member, runs⟩⟩

end Teardown

end ReplicaWatch
