import ReplicaWatch.Proofs.Slots.Reordering

/-! # Listings that are resolved in parts

A part of a listing may be resolved before the rest is known (`SlotMap.resolve_absorbs`). The
contest of a joined list is between the champions of its parts (`Task.champion?_append_list`), since
it does not matter whether the last of three tasks contends with the holder or with the one before
it (`Task.defend_defend`); and what a resolved part sends into the contest for a slot is its
champion there (`SlotMap.contenders_resolved`).
-/

namespace ReplicaWatch

namespace Task

/-- Of three tasks in a row, the last two may contend first. An equal task stays behind those
before it either way. -/
theorem defend_defend (holder? : Option Task) (task other : Task) :
    defend (defend holder? task) other =
      defend holder? (if other.precedes task then other else task) := by
  cases holder? with
  | none => rfl
  | some holder =>
    simp only [defend, Option.some.injEq]
    by_cases goes : task.precedes holder = true
    · by_cases overtakes : other.precedes task = true
      · rw [if_pos goes, if_pos overtakes, if_pos (precedes_trans overtakes goes)]
      · rw [if_pos goes, if_neg overtakes, if_pos goes]
    · by_cases overtakes : other.precedes task = true
      · rw [if_neg goes, if_pos overtakes]
      · -- Who went before the holder would go before the task as well.
        have yields : ¬other.precedes holder = true :=
          fun beats => overtakes (precedes_of_precedes_of_not beats goes)
        rw [if_neg goes, if_neg overtakes, if_neg goes, if_neg yields]

/-- **The contest of a joined list.** The champion of the second part, if there is one, contends
with that of the first. -/
theorem champion?_append_list (tasks others : List Task) :
    champion? (tasks ++ others) =
      (champion? others).elim (champion? tasks) (defend (champion? tasks)) := by
  induction others using List.reverseRecOn with
  | nil =>
    rw [List.append_nil]
    rfl
  | append_singleton others task ih =>
    rw [← List.append_assoc, champion?_append, champion?_append, ih]
    cases champion? others with
    | none => rfl
    | some holder => exact defend_defend (champion? tasks) holder task

theorem champion?_toList (champion : Option Task) : champion? champion.toList = champion := by
  cases champion <;> rfl

end Task

/-- In a resolved listing a slot has at most one task. -/
theorem SlotOrdered.filter_slot {tasks : List Task} (ordered : SlotOrdered tasks) (slot : Nat) :
    (tasks.filter fun task => task.slot == slot) =
      (tasks.find? fun task => task.slot == slot).toList := by
  induction tasks with
  | nil => rfl
  | cons holder rest ih =>
    obtain ⟨above, tail⟩ := List.pairwise_cons.mp ordered
    by_cases own : holder.slot = slot
    · have others : (rest.filter fun task => task.slot == slot) = [] := by
        rw [List.filter_eq_nil_iff]
        intro task member
        have := above task member
        simp only [beq_iff_eq]
        omega
      rw [List.filter_cons_of_pos (by simpa using own), others,
        List.find?_cons_of_pos (by simpa using own), Option.toList_some]
    · rw [List.filter_cons_of_neg (by simpa using own), List.find?_cons_of_neg (by simpa using own)]
      exact ih tail

namespace SlotMap

variable {tasks : List Task} {active : ActiveNodes} {slot : Nat}

/-- Contenders of two listings are those of the first and then those of the second. -/
theorem contenders_append (tasks others : List Task) (active : ActiveNodes) (slot : Nat) :
    contenders (tasks ++ others) active slot =
      contenders tasks active slot ++ contenders others active slot :=
  List.filter_append _ _

/-- Whoever holds a slot may compete for it again. -/
theorem isCandidate_of_mem_resolve {task : Task} (held : task ∈ (resolve tasks active).tasks) :
    task.isCandidate active = true := by
  have found : (resolve tasks active).get? task.slot = some task := get?_eq_some_iff.mpr ⟨held, rfl⟩
  rw [get?_resolve] at found
  exact (mem_contenders.mp (Task.wins_of_champion? found).mem).2.2

/-- What a resolved listing sends into the contest for a slot is who held it. -/
theorem contenders_resolved (tasks : List Task) (active : ActiveNodes) (slot : Nat) :
    contenders (resolve tasks active).tasks active slot =
      (Task.champion? (contenders tasks active slot)).toList := by
  rw [← get?_resolve, get?, ← (resolve tasks active).ordered.filter_slot slot]
  apply List.filter_congr
  intro task held
  rw [isCandidate_of_mem_resolve held, Bool.and_true]

/-- **Resolving is idempotent.** What was resolved stays as it is. -/
theorem resolve_resolved (tasks : List Task) (active : ActiveNodes) :
    resolve (resolve tasks active).tasks active = resolve tasks active := by
  apply ext_get?
  intro slot
  rw [get?_resolve, get?_resolve, contenders_resolved, Task.champion?_toList]

/-- The holder of a slot in one listing is met by the holder in the next. -/
theorem get?_resolve_append (tasks others : List Task) (active : ActiveNodes) (slot : Nat) :
    (resolve (tasks ++ others) active).get? slot =
      ((resolve others active).get? slot).elim ((resolve tasks active).get? slot)
        (Task.defend ((resolve tasks active).get? slot)) := by
  simp only [get?_resolve, contenders_append, Task.champion?_append_list]

/-- **Resolving a part first.** Either part of a listing may be replaced by the tasks that it
resolves to, in the order of their slots, and a resolved listing resolves to itself. -/
theorem resolve_absorbs (tasks others : List Task) (active : ActiveNodes) :
    resolve ((resolve tasks active).tasks ++ others) active = resolve (tasks ++ others) active ∧
      resolve (tasks ++ (resolve others active).tasks) active = resolve (tasks ++ others) active ∧
      resolve (resolve tasks active).tasks active = resolve tasks active := by
  refine ⟨ext_get? fun slot => ?_, ext_get? fun slot => ?_, resolve_resolved tasks active⟩
  · rw [get?_resolve_append, get?_resolve_append, resolve_resolved]
  · rw [get?_resolve_append, get?_resolve_append, resolve_resolved]

end SlotMap

end ReplicaWatch
