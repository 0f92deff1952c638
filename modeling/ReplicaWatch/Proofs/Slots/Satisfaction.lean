import ReplicaWatch.Proofs.Slots.Champion
import Mathlib.Data.Set.Card

/-! # When a slot is satisfied

A slot of a listing is satisfied when the task that goes before all that compete for it
counts towards the replicas (`SlotSatisfied`). The count of a resolved listing is the
number of its satisfied slots (`SlotMap.encard_satisfied`). When all tasks of the listing are
wanted running, the contest can be left out: a slot is satisfied just when some task of it
on a usable node runs and none lags behind (`SlotRuns`, `slotSatisfied_iff_of_wanted`).
-/

namespace ReplicaWatch

variable {tasks : List Task} {active : ActiveNodes} {slot : Nat}

/-- A slot is satisfied when a task that counts competes for it and nobody goes before that
task. -/
def SlotSatisfied (tasks : List Task) (active : ActiveNodes) (slot : Nat) : Prop :=
  ∃ task ∈ SlotMap.contenders tasks active slot, task.isSatisfied = true ∧
    ∀ rival ∈ SlotMap.contenders tasks active slot, ¬rival.precedes task = true

/-- No two states of the lifecycle have one rank. -/
theorem TaskState.rank_injective {s t : TaskState} (same : s.rank = t.rank) : s = t := by
  revert same
  cases s <;> cases t <;> decide

/-- Ranked states of one rank are one state. -/
theorem ReportedState.eq_of_rank? {s t : ReportedState} (ranked : s.rank?.isSome = true)
    (others : t.rank?.isSome = true) (same : s.rank?.getD 0 = t.rank?.getD 0) : s = t := by
  cases s with
  | unknown text => cases ranked
  | known state =>
    cases t with
    | unknown text => cases others
    | known other => rw [TaskState.rank_injective same]

/-- Tasks of a slot that do not go before each other are in the same states. -/
theorem Task.states_eq {a b : Task} (candidate : a.isRanked = true) (rival : b.isRanked = true)
    (yields : ¬a.precedes b = true) (yielded : ¬b.precedes a = true) :
    a.desired = b.desired ∧ a.observed = b.observed := by
  rw [Task.precedes_iff] at yields yielded
  simp only [Task.isRanked, Bool.and_eq_true] at candidate rival
  have desired : a.desired.rank?.getD 0 = b.desired.rank?.getD 0 := by omega
  have observed : a.observed.rank?.getD 0 = b.observed.rank?.getD 0 := by omega
  exact ⟨ReportedState.eq_of_rank? candidate.1 rival.1 desired,
    ReportedState.eq_of_rank? candidate.2 rival.2 observed⟩

/-- Both states of a contender have a rank. -/
theorem SlotMap.isRanked_of_contenders {task : Task}
    (member : task ∈ SlotMap.contenders tasks active slot) : task.isRanked = true := by
  have candidate := (SlotMap.mem_contenders.mp member).2.2
  simp only [Task.isCandidate, Bool.and_eq_true] at candidate
  exact candidate.2

/-- A slot is satisfied when its holder counts. -/
theorem slotSatisfied_iff_get? :
    SlotSatisfied tasks active slot ↔
      ∃ task, (SlotMap.resolve tasks active).get? slot = some task ∧ task.isSatisfied = true := by
  rw [SlotMap.get?_resolve]
  constructor
  · rintro ⟨task, member, satisfied, unbeaten⟩
    obtain ⟨winner, champion, wins⟩ := Task.champion?_wins (List.ne_nil_of_mem member)
    refine ⟨winner, champion, ?_⟩
    obtain ⟨desired, observed⟩ :=
      Task.states_eq (SlotMap.isRanked_of_contenders wins.mem)
        (SlotMap.isRanked_of_contenders member) (unbeaten winner wins.mem) (wins.unbeaten member)
    rw [Task.isSatisfied, desired, observed]
    exact satisfied
  · rintro ⟨task, champion, satisfied⟩
    have wins := Task.wins_of_champion? champion
    exact ⟨task, wins.mem, satisfied, fun rival member => wins.unbeaten member⟩

namespace SlotMap

/-- The slots of a map are distinct. -/
theorem nodup_slots (slots : SlotMap) : (slots.tasks.map Task.slot).Nodup :=
  List.pairwise_map.mpr (slots.ordered.imp Nat.ne_of_lt)

/-- What is found under a slot is the task there. -/
theorem get?_eq_some_iff {slots : SlotMap} {slot : Nat} {task : Task} :
    slots.get? slot = some task ↔ task ∈ slots.tasks ∧ task.slot = slot := by
  constructor
  · intro found
    exact ⟨List.mem_of_find?_eq_some found, by simpa using List.find?_some found⟩
  · rintro ⟨member, rfl⟩
    have present : (slots.get? task.slot).isSome = true := by
      rw [get?, List.find?_isSome]
      exact ⟨task, member, beq_self_eq_true _⟩
    obtain ⟨holder, found⟩ := Option.isSome_iff_exists.mp present
    have same : holder.slot = task.slot := by simpa using List.find?_some found
    have held : holder ∈ slots.tasks := List.mem_of_find?_eq_some found
    rw [found, List.inj_on_of_nodup_map slots.nodup_slots held member same]

/-- **What is counted.** The count of a resolved listing is the number of its satisfied
slots. -/
theorem encard_satisfied (tasks : List Task) (active : ActiveNodes) :
    {slot | SlotSatisfied tasks active slot}.encard = (resolve tasks active).countRunning := by
  generalize held : (resolve tasks active).tasks.filter Task.isSatisfied = satisfied
  have nodup : (satisfied.map Task.slot).Nodup := by
    rw [← held]
    exact (resolve tasks active).nodup_slots.sublist (List.filter_sublist.map Task.slot)
  have slots : {slot | SlotSatisfied tasks active slot} =
      ((satisfied.map Task.slot).toFinset : Set Nat) := by
    ext slot
    simp only [Set.mem_ofPred_eq, slotSatisfied_iff_get?, get?_eq_some_iff, List.coe_toFinset,
      List.mem_map, ← held, List.mem_filter]
    grind
  rw [slots, Set.encard_coe_eq_coe_finsetCard, List.toFinset_card_of_nodup nodup,
    List.length_map, ← held, ← List.countP_eq_length_filter]
  rfl

end SlotMap

/-- A task is placed soundly when it is unassigned or on a node that is listed as not
down. -/
def Task.PlacedAmong (nodes : List Node) (task : Task) : Prop :=
  task.node = "" ∨ ∃ node ∈ nodes, node.id = task.node ∧ node.state ≠ .down

/-- The nodes of a listing admit the tasks that are placed among them. -/
theorem ActiveNodes.admits_ofNodes_iff {nodes : List Node} {task : Task} :
    (ActiveNodes.ofNodes nodes).admits task.node = true ↔ task.PlacedAmong nodes := by
  simp only [admits, ofNodes, Bool.or_eq_true, List.contains_iff_mem, List.mem_eraseDups,
    List.mem_map, List.mem_filter, Task.PlacedAmong, String.isEmpty_iff, Node.isActive, bne_iff_ne]
  grind

/-- A slot runs when some soundly placed task of it is observed running, and none of those
that are in a state of the lifecycle is observed in a state before running. -/
def SlotRuns (tasks : List Task) (nodes : List Node) (slot : Nat) : Prop :=
  (∃ task ∈ tasks, task.slot = slot ∧ task.PlacedAmong nodes ∧
    task.observed = .known .running) ∧
  ∀ task ∈ tasks, task.slot = slot → task.PlacedAmong nodes →
    ∀ state, task.observed = .known state → TaskState.running.rank ≤ state.rank

theorem ReportedState.is_iff {reported : ReportedState} {state : TaskState} :
    reported.is state = true ↔ reported = .known state := by
  cases reported <;> simp [is, state?]

section Wanted

-- A listing of the tasks that are wanted running holds no others.
variable {nodes : List Node} (wanted : ∀ task ∈ tasks, task.desired = .known .running)
include wanted

/-- Of the tasks that are wanted running, those count that run. -/
theorem isSatisfied_iff_of_wanted {task : Task} (member : task ∈ tasks) :
    task.isSatisfied = true ↔ task.observed = .known .running := by
  have alive : TaskState.running.isTerminal = false := by decide
  simp only [Task.isSatisfied, wanted task member, ReportedState.state?, alive, Bool.not_false,
    Bool.true_and, ReportedState.is_iff]

/-- A task that is wanted running contends when it is placed soundly and observed in a state
of the lifecycle. -/
theorem mem_contenders_iff_of_wanted {task : Task} :
    task ∈ SlotMap.contenders tasks (.ofNodes nodes) slot ↔
      task ∈ tasks ∧ task.slot = slot ∧ task.PlacedAmong nodes ∧
        ∃ state, task.observed = .known state := by
  rw [SlotMap.mem_contenders]
  refine and_congr_right fun member => and_congr_right fun _ => ?_
  rw [Task.isCandidate, Bool.and_eq_true, ActiveNodes.admits_ofNodes_iff, Task.isRanked,
    wanted task member]
  cases task.observed <;> simp [ReportedState.rank?, ReportedState.state?]

/-- Of the tasks that are wanted running, the one that lags behind goes first. -/
theorem precedes_of_wanted {task rival : Task} {state other : TaskState} (member : task ∈ tasks)
    (rivals : rival ∈ tasks) (observed : task.observed = .known state)
    (observes : rival.observed = .known other) (lags : state.rank < other.rank) :
    task.precedes rival = true := by
  rw [Task.precedes_iff, wanted task member, wanted rival rivals, observed, observes]
  exact .inr ⟨rfl, .inl lags⟩

/-- **Reading a raw listing.** When all listed tasks are wanted running, a slot is satisfied
just when it runs. -/
theorem slotSatisfied_iff_of_wanted :
    SlotSatisfied tasks (.ofNodes nodes) slot ↔ SlotRuns tasks nodes slot := by
  constructor
  · rintro ⟨winner, contends, satisfied, unbeaten⟩
    obtain ⟨member, own, placed, -⟩ := (mem_contenders_iff_of_wanted wanted).mp contends
    have running := (isSatisfied_iff_of_wanted wanted member).mp satisfied
    refine ⟨⟨winner, member, own, placed, running⟩, ?_⟩
    intro rival rivals competes sound state observed
    have rivaling : rival ∈ SlotMap.contenders tasks (.ofNodes nodes) slot :=
      (mem_contenders_iff_of_wanted wanted).mpr ⟨rivals, competes, sound, state, observed⟩
    by_contra lags
    exact unbeaten rival rivaling
      (precedes_of_wanted wanted rivals member observed running (Nat.lt_of_not_le lags))
  · rintro ⟨⟨task, member, own, placed, running⟩, advanced⟩
    have contends : task ∈ SlotMap.contenders tasks (.ofNodes nodes) slot :=
      (mem_contenders_iff_of_wanted wanted).mpr ⟨member, own, placed, _, running⟩
    obtain ⟨winner, -, wins⟩ := Task.champion?_wins (List.ne_nil_of_mem contends)
    obtain ⟨listed, holds, sound, state, observed⟩ :=
      (mem_contenders_iff_of_wanted wanted).mp wins.mem
    -- The winner is not behind running, and the running task is not behind the winner.
    have least : TaskState.running.rank ≤ state.rank :=
      advanced winner listed holds sound state observed
    have greatest : state.rank ≤ TaskState.running.rank := by
      by_contra lags
      exact wins.unbeaten contends
        (precedes_of_wanted wanted member listed running observed (Nat.lt_of_not_le lags))
    have same : state = .running := TaskState.rank_injective (Nat.le_antisymm greatest least)
    rw [same] at observed
    exact ⟨winner, wins.mem, (isSatisfied_iff_of_wanted wanted listed).mpr observed,
      fun rival rivals => wins.unbeaten rivals⟩

end Wanted

end ReplicaWatch
