import ReplicaWatch.Proofs.Slots.Satisfaction
import ReplicaWatch.Proofs.Text.ByteOrder
import Mathlib.Data.Prod.Lex

/-! # What a listing resolves to

The contest for a slot can be told without running it. Tasks are compared by their states and the
bytes of their ids (`Task.key`, `Task.precedes_iff_key_lt`), and a slot goes to the first of the
listed tasks that compete for it with a least key (`Task.Leads`, `SlotMap.resolve_elects`). It is
free just when no task competes for it.
-/

namespace ReplicaWatch

/-- A task may run on an active node, or on none yet. -/
theorem ActiveNodes.admits_iff {active : ActiveNodes} {node : String} :
    active.admits node = true ↔ node = "" ∨ node ∈ active.ids := by
  rw [admits, Bool.or_eq_true, String.isEmpty_iff, List.contains_iff_mem]

/-- Only the states of the lifecycle have a rank. -/
theorem ReportedState.isSome_rank?_iff {reported : ReportedState} :
    reported.rank?.isSome = true ↔ ∃ state, reported = .known state := by
  cases reported <;> simp [rank?, state?]

namespace Task

/-- What the tasks of a slot are compared by: the desired state, the observed state, and the bytes
of the id. -/
def key (task : Task) : Nat ×ₗ Nat ×ₗ List Nat :=
  toLex (task.desired.rank?.getD 0, toLex (task.observed.rank?.getD 0, Text.bytes task.id))

/-- **The order of the contest.** A task goes before another when its key is less. -/
theorem precedes_iff_key_lt {a b : Task} : a.precedes b = true ↔ a.key < b.key := by
  rw [precedes_iff, key, key, Prod.Lex.toLex_lt_toLex, Prod.Lex.toLex_lt_toLex,
    Text.bytes_lt_iff]

/-- The order of the keys is the order of precedence. -/
theorem key_le_iff {a b : Task} : a.key ≤ b.key ↔ ¬b.precedes a = true := by
  rw [precedes_iff_key_lt, not_lt]

/-- A task competes for a slot when the slot is its own, both its states are of the lifecycle, and
it is unassigned or on an active node. -/
def Competes (active : ActiveNodes) (slot : Nat) (task : Task) : Prop :=
  task.slot = slot ∧
    ((∃ state, task.desired = .known state) ∧ ∃ state, task.observed = .known state) ∧
    (task.node = "" ∨ task.node ∈ active.ids)

/-- A task leads when it competes for a slot and no listed task that does has a lesser key. -/
def Leads (tasks : List Task) (active : ActiveNodes) (slot : Nat) (task : Task) : Prop :=
  task.Competes active slot ∧
    ∀ rival ∈ tasks, rival.Competes active slot → task.key ≤ rival.key

theorem competes_iff {active : ActiveNodes} {slot : Nat} {task : Task} :
    task.Competes active slot ↔ task.slot = slot ∧ task.isCandidate active = true := by
  rw [Competes, isCandidate, isRanked, Bool.and_eq_true, Bool.and_eq_true, ActiveNodes.admits_iff,
    ReportedState.isSome_rank?_iff, ReportedState.isSome_rank?_iff,
    and_comm (a := task.node = "" ∨ task.node ∈ active.ids)]

instance (active : ActiveNodes) (slot : Nat) : DecidablePred (Competes active slot) :=
  fun _ => decidable_of_iff _ competes_iff.symm

instance (tasks : List Task) (active : ActiveNodes) (slot : Nat) :
    DecidablePred (Leads tasks active slot) :=
  fun task => inferInstanceAs (Decidable (_ ∧ ∀ rival ∈ tasks, _ → task.key ≤ rival.key))

/-- The first of the tasks with a least key. -/
def leastFirst? (tasks : List Task) : Option Task :=
  tasks.find? fun task => decide (∀ rival ∈ tasks, task.key ≤ rival.key)

/-- A winner is the first task with the least key. -/
theorem Wins.leastFirst?_eq {tasks : List Task} {winner : Task} (wins : Wins tasks winner) :
    leastFirst? tasks = some winner := by
  have least : ∀ rival ∈ tasks, winner.key ≤ rival.key :=
    fun rival member => key_le_iff.mpr (wins.unbeaten member)
  have winning : winner ∈ tasks := wins.mem
  obtain ⟨before, after, listed, beaten, -⟩ := wins
  rw [leastFirst?, List.find?_eq_some_iff_append]
  refine ⟨decide_eq_true least, before, after, listed, ?_⟩
  intro other member
  have greater : winner.key < other.key := precedes_iff_key_lt.mp (beaten other member)
  simp only [Bool.not_eq_true', decide_eq_false_iff_not]
  -- A task before the winner has a greater key, so its own is not least.
  exact fun below => not_lt_of_ge (below winner winning) greater

/-- So the contest finds just that task. -/
theorem champion?_eq_leastFirst? (tasks : List Task) : champion? tasks = leastFirst? tasks := by
  by_cases nobody : tasks = []
  · subst nobody
    rfl
  · obtain ⟨winner, champion, wins⟩ := champion?_wins nobody
    rw [champion, wins.leastFirst?_eq]

/-- A contest has one winner. -/
theorem Wins.champion?_eq {tasks : List Task} {winner : Task} (wins : Wins tasks winner) :
    champion? tasks = some winner := by
  rw [champion?_eq_leastFirst?, wins.leastFirst?_eq]

end Task

namespace SlotMap

/-- The contenders of a slot are the listed tasks that compete for it. -/
theorem mem_contenders_iff_competes {tasks : List Task} {active : ActiveNodes} {slot : Nat}
    {task : Task} :
    task ∈ contenders tasks active slot ↔ task ∈ tasks ∧ task.Competes active slot := by
  rw [mem_contenders, Task.competes_iff]

/-- **The holder of a slot.** A slot is held by the first task of the listing that leads. -/
theorem get?_resolve_eq_find? (tasks : List Task) (active : ActiveNodes) (slot : Nat) :
    (resolve tasks active).get? slot =
      tasks.find? fun task => decide (task.Leads tasks active slot) := by
  rw [get?_resolve, Task.champion?_eq_leastFirst?, Task.leastFirst?, contenders, List.find?_filter]
  congr 1
  funext task
  rw [Bool.eq_iff_iff, decide_eq_true_iff (p := task.Leads tasks active slot), Task.Leads]
  simp only [Bool.and_eq_true, beq_iff_eq, decide_eq_true_eq, List.mem_filter,
    ← Task.competes_iff, and_imp]

/-- A slot is held just when some listed task competes for it. -/
theorem isSome_get?_resolve {tasks : List Task} {active : ActiveNodes} {slot : Nat} :
    ((resolve tasks active).get? slot).isSome = true ↔
      ∃ task ∈ tasks, task.Competes active slot := by
  rw [get?_resolve]
  constructor
  · intro held
    obtain ⟨winner, champion⟩ := Option.isSome_iff_exists.mp held
    exact ⟨winner, mem_contenders_iff_competes.mp (Task.wins_of_champion? champion).mem⟩
  · rintro ⟨task, contends⟩
    have member := mem_contenders_iff_competes.mpr contends
    obtain ⟨winner, champion, -⟩ := Task.champion?_wins (List.ne_nil_of_mem member)
    rw [champion, Option.isSome_some]

/-- **What a listing resolves to.** A slot is taken just when some listed task competes for it. It
goes to the first of the listed tasks that lead, those with the least key of all that compete. The
slots are gone through in strictly ascending order, each with the task that is found under it, whose
own slot it is. -/
theorem resolve_elects (tasks : List Task) (active : ActiveNodes) :
    (∀ slot, ((resolve tasks active).get? slot).isSome = true ↔
        ∃ task ∈ tasks, task.Competes active slot) ∧
      (∀ slot, (resolve tasks active).get? slot =
        tasks.find? fun task => decide (task.Leads tasks active slot)) ∧
      ((resolve tasks active).tasks.map Task.slot).Pairwise (· < ·) ∧
      ∀ slot task, (task ∈ (resolve tasks active).tasks ∧ task.slot = slot) ↔
        (resolve tasks active).get? slot = some task := by
  refine ⟨fun slot => isSome_get?_resolve, get?_resolve_eq_find? tasks active, ?_, ?_⟩
  · exact List.pairwise_map.mpr (resolve tasks active).ordered
  · intro slot task
    exact get?_eq_some_iff.symm

end SlotMap

end ReplicaWatch
