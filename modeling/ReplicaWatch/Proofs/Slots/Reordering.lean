import ReplicaWatch.Proofs.Slots.Satisfaction

/-! # Listings in another order

The orchestrator lists tasks and nodes in any order. A resolved listing is known by who holds each
slot (`SlotMap.ext_get?`), and the champion of a contest is the same in every order of the
contenders, as long as the contest can tell any two of them apart (`Task.Distinguished`): of two
tasks that do not go before each other, states and ids agree. So resolution does not depend on
either order (`SlotMap.resolve_eq_of_perm`).
-/

namespace ReplicaWatch

/-- No two different tasks of a listing agree on slot, states and id. -/
def Task.Distinguished (tasks : List Task) : Prop :=
  ∀ task ∈ tasks, ∀ other ∈ tasks,
    task.slot = other.slot ∧ task.desired = other.desired ∧ task.observed = other.observed ∧
      task.id = other.id → task = other

instance (tasks : List Task) : Decidable (Task.Distinguished tasks) :=
  inferInstanceAs (Decidable (∀ task ∈ tasks, ∀ other ∈ tasks, _ → task = other))

namespace Task

/-- Tasks in the same states that do not go before each other have one id. -/
theorem id_eq {task other : Task} (desired : task.desired = other.desired)
    (observed : task.observed = other.observed) (yields : ¬task.precedes other = true)
    (yielded : ¬other.precedes task = true) : task.id = other.id := by
  rw [precedes_iff, desired, observed] at yields yielded
  simp only [Nat.lt_irrefl, true_and, false_or] at yields yielded
  exact String.le_antisymm (String.not_lt.mp yielded) (String.not_lt.mp yields)

/-- **One champion.** Contests between the same tasks of one slot have the same champion, whatever
the order, when the tasks can be told apart. -/
theorem champion?_eq_of_perm {tasks others : List Task} (slot : Nat) (perm : tasks.Perm others)
    (own : ∀ task ∈ tasks, task.slot = slot ∧ task.isRanked = true)
    (distinguished : Distinguished tasks) : champion? tasks = champion? others := by
  by_cases nobody : tasks = []
  · subst nobody
    rw [perm.nil_eq]
  · have somebody : others ≠ [] := fun none => nobody (perm.trans (none ▸ .refl _)).eq_nil
    obtain ⟨winner, champion, wins⟩ := champion?_wins nobody
    obtain ⟨rival, champion', wins'⟩ := champion?_wins somebody
    have member : rival ∈ tasks := perm.mem_iff.mpr wins'.mem
    have yields : ¬winner.precedes rival = true := wins'.unbeaten (perm.mem_iff.mp wins.mem)
    have yielded : ¬rival.precedes winner = true := wins.unbeaten member
    obtain ⟨slots, ranked⟩ := own winner wins.mem
    obtain ⟨slots', ranked'⟩ := own rival member
    obtain ⟨desired, observed⟩ := states_eq ranked ranked' yields yielded
    have same : winner = rival :=
      distinguished winner wins.mem rival member
        ⟨slots.trans slots'.symm, desired, observed, id_eq desired observed yields yielded⟩
    rw [champion, champion', same]

end Task

namespace SlotMap

/-- A map is known by who holds each slot. -/
theorem ext_get? {slots others : SlotMap} (same : ∀ slot, slots.get? slot = others.get? slot) :
    slots = others := by
  have members (task : Task) : task ∈ slots.tasks ↔ task ∈ others.tasks := by
    have held : task ∈ slots.tasks ↔ slots.get? task.slot = some task := by
      rw [get?_eq_some_iff, and_iff_left rfl]
    rw [held, same, get?_eq_some_iff, and_iff_left rfl]
  have perm : slots.tasks.Perm others.tasks :=
    (List.perm_ext_iff_of_nodup (.of_map _ slots.nodup_slots)
      (.of_map _ others.nodup_slots)).mpr members
  have tasks : slots.tasks = others.tasks :=
    perm.eq_of_pairwise (fun _ _ _ _ less greater => absurd greater (Nat.lt_asymm less))
      slots.ordered others.ordered
  cases slots
  cases others
  cases tasks
  rfl

theorem contenders_perm {tasks others : List Task} {active : ActiveNodes} {slot : Nat}
    (perm : tasks.Perm others) :
    (contenders tasks active slot).Perm (contenders others active slot) :=
  perm.filter _

/-- Only who is admitted matters of the nodes. -/
theorem contenders_congr {tasks : List Task} {active others : ActiveNodes} {slot : Nat}
    (admits : ∀ node, active.admits node = others.admits node) :
    contenders tasks active slot = contenders tasks others slot := by
  simp only [contenders, Task.isCandidate, admits]

/-- **Resolution does not depend on the order.** Listings of the same tasks that can be told apart,
with nodes that admit the same tasks, are resolved alike. -/
theorem resolve_eq_of_perm {tasks others : List Task} {active active' : ActiveNodes}
    (perm : tasks.Perm others) (admits : ∀ node, active.admits node = active'.admits node)
    (distinguished : Task.Distinguished tasks) :
    resolve tasks active = resolve others active' := by
  apply ext_get?
  intro slot
  rw [get?_resolve, get?_resolve, ← contenders_congr admits]
  refine Task.champion?_eq_of_perm slot (contenders_perm perm) ?_ ?_
  · intro task member
    exact ⟨(mem_contenders.mp member).2.1, isRanked_of_contenders member⟩
  · intro task member other member'
    exact distinguished task (mem_contenders.mp member).1 other (mem_contenders.mp member').1

end SlotMap

/-- The order in which nodes are listed does not matter to who is admitted. -/
theorem ActiveNodes.admits_ofNodes_of_perm {nodes others : List Node} (perm : nodes.Perm others)
    (node : String) : (ofNodes nodes).admits node = (ofNodes others).admits node := by
  have active : ((nodes.filter Node.isActive).map Node.id).Perm
      ((others.filter Node.isActive).map Node.id) := (perm.filter _).map _
  rw [Bool.eq_iff_iff]
  simp only [admits, ofNodes, Bool.or_eq_true, List.contains_iff_mem, List.mem_eraseDups,
    active.mem_iff]

end ReplicaWatch
