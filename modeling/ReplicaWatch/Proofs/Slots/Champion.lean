import ReplicaWatch.Convergence.Slots
import Mathlib.Data.List.Induction

/-! # Who holds a slot

Going before is a strict weak order of tasks (`Task.precedes_trans`,
`Task.precedes_of_precedes_of_not`), so a contest over a list has a champion: the first of
those that nobody goes before (`Task.Wins`). Slots do not disturb one another: a resolved
slot is held by the champion of the candidates for that slot alone
(`SlotMap.get?_resolve`).
-/

namespace ReplicaWatch

namespace Task

/-- The order of the contest, spelled out: desired state, observed state, id. -/
theorem precedes_iff (a b : Task) :
    a.precedes b = true ↔
      a.desired.rank?.getD 0 < b.desired.rank?.getD 0 ∨
        a.desired.rank?.getD 0 = b.desired.rank?.getD 0 ∧
          (a.observed.rank?.getD 0 < b.observed.rank?.getD 0 ∨
            a.observed.rank?.getD 0 = b.observed.rank?.getD 0 ∧ a.id < b.id) := by
  simp only [precedes, Bool.or_eq_true, Bool.and_eq_true, decide_eq_true_eq, beq_iff_eq]

/-- Going before is transitive: a lower state goes before, and so does a lower id in one state. -/
theorem precedes_trans {a b c : Task} (first : a.precedes b = true)
    (second : b.precedes c = true) : a.precedes c = true := by
  rw [precedes_iff] at first second ⊢
  have ids : a.id < b.id → b.id < c.id → a.id < c.id := String.lt_trans
  grind

/-- No task goes before itself. -/
theorem precedes_irrefl (a : Task) : ¬a.precedes a = true := by
  rw [precedes_iff]
  have ids : ¬a.id < a.id := String.lt_irrefl a.id
  grind

/-- Who goes before another goes before all that the other does not yield to. -/
theorem precedes_of_precedes_of_not {a b c : Task} (first : a.precedes b = true)
    (second : ¬c.precedes b = true) : a.precedes c = true := by
  rw [precedes_iff] at first second ⊢
  have ids : a.id < b.id → ¬c.id < b.id → a.id < c.id := by
    intro less unbeaten
    rw [← String.not_le]
    intro above
    exact String.not_lt.mpr (String.le_trans (String.not_lt.mp unbeaten) above) less
  grind

/-- Lets a task contend with the holder, if there is one. -/
def defend (holder? : Option Task) (task : Task) : Option Task :=
  match holder? with
  | none => some task
  | some holder => some (if task.precedes holder then task else holder)

/-- The task that is left of a contest. -/
def champion? (tasks : List Task) : Option Task := tasks.foldl defend none

/-- The first of the tasks that nobody goes before. -/
def Wins (tasks : List Task) (winner : Task) : Prop :=
  ∃ before after, tasks = before ++ winner :: after ∧
    (∀ other ∈ before, winner.precedes other = true) ∧
    ∀ other ∈ after, ¬other.precedes winner = true

namespace Wins

variable {tasks : List Task} {winner task : Task}

/-- A winner is one of the contenders. -/
theorem mem (wins : Wins tasks winner) : winner ∈ tasks := by
  obtain ⟨before, after, rfl, -, -⟩ := wins
  exact List.mem_append_right _ List.mem_cons_self

/-- Nobody goes before a winner. -/
theorem unbeaten (wins : Wins tasks winner) {other : Task} (member : other ∈ tasks) :
    ¬other.precedes winner = true := by
  obtain ⟨before, after, rfl, beaten, later⟩ := wins
  rcases List.mem_append.mp member with earlier | rest
  · intro goes
    have loop := precedes_trans goes (beaten other earlier)
    exact precedes_irrefl other loop
  · rcases List.mem_cons.mp rest with rfl | rest
    · exact precedes_irrefl other
    · exact later other rest

/-- A winner is overtaken by a task that goes before it. -/
theorem overtaken (wins : Wins tasks winner) (goes : task.precedes winner = true) :
    Wins (tasks ++ [task]) task := by
  refine ⟨tasks, [], rfl, ?_, by simp⟩
  intro other member
  exact precedes_of_precedes_of_not goes (wins.unbeaten member)

/-- A winner stays ahead of a task that does not go before it. -/
theorem kept (wins : Wins tasks winner) (yields : ¬task.precedes winner = true) :
    Wins (tasks ++ [task]) winner := by
  obtain ⟨before, after, rfl, beaten, later⟩ := wins
  refine ⟨before, after ++ [task], by simp, beaten, ?_⟩
  intro other member
  rcases List.mem_append.mp member with earlier | last
  · exact later other earlier
  · rw [List.mem_singleton.mp last]
    exact yields

end Wins

/-- The next contender meets the champion of those before it. -/
theorem champion?_append (tasks : List Task) (task : Task) :
    champion? (tasks ++ [task]) = defend (champion? tasks) task := by
  simp only [champion?, List.foldl_append, List.foldl_cons, List.foldl_nil]

/-- **The champion wins.** Every contest with a contender has a champion, and it wins. -/
theorem champion?_wins {tasks : List Task} (nonempty : tasks ≠ []) :
    ∃ winner, champion? tasks = some winner ∧ Wins tasks winner := by
  induction tasks using List.reverseRecOn with
  | nil => exact absurd rfl nonempty
  | append_singleton tasks task ih =>
    rw [champion?_append]
    by_cases nobody : tasks = []
    · subst nobody
      exact ⟨task, rfl, [], [], rfl, by simp, by simp⟩
    · obtain ⟨holder, champion, wins⟩ := ih nobody
      rw [champion]
      by_cases goes : task.precedes holder = true
      · exact ⟨task, by rw [defend, if_pos goes], wins.overtaken goes⟩
      · exact ⟨holder, by rw [defend, if_neg goes], wins.kept goes⟩

theorem wins_of_champion? {tasks : List Task} {winner : Task}
    (champion : champion? tasks = some winner) : Wins tasks winner := by
  have nonempty : tasks ≠ [] := by
    rintro rfl
    cases champion
  obtain ⟨other, found, wins⟩ := champion?_wins nonempty
  rw [champion] at found
  cases found
  exact wins

end Task

namespace SlotOrdered

/-- The task of a slot in a list. -/
private abbrev holder? (slot : Nat) (tasks : List Task) : Option Task :=
  tasks.find? fun task => task.slot == slot

/-- A slot below all slots of a list has no task in it. -/
private theorem holder?_eq_none {slot : Nat} {tasks : List Task}
    (above : ∀ task ∈ tasks, slot < task.slot) : holder? slot tasks = none := by
  rw [List.find?_eq_none]
  intro task member
  have := above task member
  simp only [beq_iff_eq]
  omega

/-- A task contends for its own slot and for no other. -/
theorem find?_contend (task : Task) {tasks : List Task} (ordered : SlotOrdered tasks)
    (slot : Nat) :
    holder? slot (contend task tasks) =
      if task.slot = slot then Task.defend (holder? slot tasks) task else holder? slot tasks := by
  induction tasks with
  | nil =>
    by_cases own : task.slot = slot
    · simp [contend, own, Task.defend]
    · simp [contend, own]
  | cons holder rest ih =>
    obtain ⟨above, tail⟩ := List.pairwise_cons.mp ordered
    unfold contend
    by_cases less : task.slot < holder.slot
    · rw [if_pos less]
      by_cases own : task.slot = slot
      · subst own
        have free : holder? task.slot (holder :: rest) = none := by
          apply holder?_eq_none
          intro other member
          rcases List.mem_cons.mp member with rfl | later
          · exact less
          · exact Nat.lt_trans less (above other later)
        rw [free, if_pos rfl]
        simp [Task.defend]
      · simp [List.find?_cons, own]
    · rw [if_neg less]
      by_cases same : task.slot = holder.slot
      · rw [if_pos same]
        by_cases own : task.slot = slot
        · have held : holder? slot (holder :: rest) = some holder :=
            List.find?_cons_of_pos (by simp [← own, same])
          rw [held, if_pos own]
          refine List.find?_cons_of_pos ?_
          split <;> simp [← own, same]
        · rw [if_neg own]
          have other : ¬holder.slot = slot := same ▸ own
          refine (List.find?_cons_of_neg ?_).trans (List.find?_cons_of_neg ?_).symm
          · split <;> simp [own, other]
          · simpa using other
      · rw [if_neg same]
        by_cases own : holder.slot = slot
        · rw [if_neg fun same' => same (same'.trans own.symm)]
          simp [holder?, own]
        · have passed : ∀ tasks, holder? slot (holder :: tasks) = holder? slot tasks :=
            fun tasks => List.find?_cons_of_neg (by simpa using own)
          rw [passed, passed]
          exact ih tail

end SlotOrdered

namespace SlotMap

theorem get?_empty (slot : Nat) : empty.get? slot = none := rfl

/-- In the map, too, a task contends for its own slot only. -/
theorem get?_contend (slots : SlotMap) (task : Task) (slot : Nat) :
    (slots.contend task).get? slot =
      if task.slot = slot then Task.defend (slots.get? slot) task else slots.get? slot :=
  SlotOrdered.find?_contend task slots.ordered slot

/-- A slot only ever sees its own contenders, in the order of the listing. -/
private theorem get?_foldl_contend (tasks : List Task) (slots : SlotMap) (slot : Nat) :
    (tasks.foldl contend slots).get? slot =
      (tasks.filter fun task => task.slot == slot).foldl Task.defend (slots.get? slot) := by
  induction tasks generalizing slots with
  | nil => rfl
  | cons task rest ih =>
    rw [List.foldl_cons, ih, get?_contend]
    by_cases own : task.slot = slot
    · rw [if_pos own, List.filter_cons_of_pos (by simpa using own), List.foldl_cons]
    · rw [if_neg own, List.filter_cons_of_neg (by simpa using own)]

/-- The tasks of a listing that compete for a slot. -/
def contenders (tasks : List Task) (active : ActiveNodes) (slot : Nat) : List Task :=
  tasks.filter fun task => task.slot == slot && task.isCandidate active

/-- The contenders of a slot are its own tasks that are candidates. -/
theorem mem_contenders {tasks : List Task} {active : ActiveNodes} {slot : Nat} {task : Task} :
    task ∈ contenders tasks active slot ↔
      task ∈ tasks ∧ task.slot = slot ∧ task.isCandidate active = true := by
  simp only [contenders, List.mem_filter, Bool.and_eq_true, beq_iff_eq]

/-- **Slots are resolved apart.** A slot is held by the champion of those that compete for
it. -/
theorem get?_resolve (tasks : List Task) (active : ActiveNodes) (slot : Nat) :
    (resolve tasks active).get? slot = Task.champion? (contenders tasks active slot) := by
  unfold resolve
  rw [get?_foldl_contend, get?_empty, List.filter_filter]
  rfl

end SlotMap

end ReplicaWatch
