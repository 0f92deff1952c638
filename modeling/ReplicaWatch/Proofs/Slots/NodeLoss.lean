import ReplicaWatch.Proofs.Slots.Resolution

/-! # Slots when nodes are lost

With fewer active nodes fewer tasks compete, and nothing else changes in the contest for a slot
(`SlotMap.contenders_of_fewer`). A winner whose node is left wins again (`Task.Wins.filter`); one
whose node is lost is followed by a task that was listed before as well and did not go before it. So
the loss of nodes frees slots and passes them on, but it takes no slot and turns no order around
(`SlotMap.resolve_of_fewer_nodes`).
-/

namespace ReplicaWatch

/-- More active nodes admit more. -/
theorem ActiveNodes.admits_of_subset {active others : ActiveNodes} (fewer : active.ids ⊆ others.ids)
    {node : String} (admitted : active.admits node = true) : others.admits node = true := by
  rw [admits_iff] at admitted ⊢
  exact admitted.imp_right fun listed => fewer listed

/-- A winner wins among any of the tasks that it is one of. -/
theorem Task.Wins.filter {tasks : List Task} {winner : Task} (wins : Wins tasks winner)
    {stays : Task → Bool} (kept : stays winner = true) : Wins (tasks.filter stays) winner := by
  obtain ⟨before, after, rfl, beaten, later⟩ := wins
  refine ⟨before.filter stays, after.filter stays, ?_, ?_, ?_⟩
  · rw [List.filter_append, List.filter_cons_of_pos kept]
  · intro other member
    exact beaten other (List.mem_of_mem_filter member)
  · intro other member
    exact later other (List.mem_of_mem_filter member)

namespace SlotMap

section Fewer

variable {tasks : List Task} {active others : ActiveNodes} {slot : Nat} {winner : Task}
  (fewer : active.ids ⊆ others.ids)
include fewer

/-- With fewer active nodes those compete that competed before and are still admitted. -/
theorem contenders_of_fewer (tasks : List Task) (slot : Nat) :
    contenders tasks active slot =
      (contenders tasks others slot).filter fun task => active.admits task.node := by
  rw [contenders, contenders, List.filter_filter]
  apply List.filter_congr
  intro task _
  by_cases admitted : active.admits task.node = true
  · simp only [Task.isCandidate, admitted, ActiveNodes.admits_of_subset fewer admitted,
      Bool.true_and]
  · simp only [Task.isCandidate, Bool.eq_false_of_not_eq_true admitted, Bool.false_and,
      Bool.and_false]

/-- Fewer active nodes bring no contender. -/
theorem mem_contenders_of_fewer {task : Task} (contends : task ∈ contenders tasks active slot) :
    task ∈ contenders tasks others slot := by
  rw [contenders_of_fewer fewer] at contends
  exact List.mem_of_mem_filter contends

/-- So they bring no slot. -/
theorem isSome_of_fewer (held : ((resolve tasks active).get? slot).isSome = true) :
    ((resolve tasks others).get? slot).isSome = true := by
  rw [isSome_get?_resolve] at held ⊢
  obtain ⟨task, contends⟩ := held
  exact ⟨task, mem_contenders_iff_competes.mp
    (mem_contenders_of_fewer fewer (mem_contenders_iff_competes.mpr contends))⟩

/-- A winner that is still admitted still wins. -/
theorem get?_of_admitted (found : (resolve tasks others).get? slot = some winner)
    (admitted : active.admits winner.node = true) :
    (resolve tasks active).get? slot = some winner := by
  rw [get?_resolve] at found ⊢
  rw [contenders_of_fewer fewer]
  exact ((Task.wins_of_champion? found).filter admitted).champion?_eq

/-- The heir of a slot competed before as well, and did not go before the winner. -/
theorem not_key_lt_of_fewer (found : (resolve tasks others).get? slot = some winner) {heir : Task}
    (left : (resolve tasks active).get? slot = some heir) : ¬heir.key < winner.key := by
  rw [get?_resolve] at found left
  have contends := mem_contenders_of_fewer fewer (Task.wins_of_champion? left).mem
  rw [← Task.precedes_iff_key_lt]
  exact (Task.wins_of_champion? found).unbeaten contends

end Fewer

/-- **Losing nodes.** Let the active nodes of one listing be among those of another. Every slot that
is taken with the first is taken with the second. Whoever holds a slot with the second holds it with
the first as well if the first still admits it, and whoever holds it with the first does not go
before it in states and id. -/
theorem resolve_of_fewer_nodes (tasks : List Task) (nodes others : List Node)
    (fewer : (ActiveNodes.ofNodes nodes).ids ⊆ (ActiveNodes.ofNodes others).ids) (slot : Nat) :
    (((resolve tasks (.ofNodes nodes)).get? slot).isSome = true →
        ((resolve tasks (.ofNodes others)).get? slot).isSome = true) ∧
      ∀ winner, (resolve tasks (.ofNodes others)).get? slot = some winner →
        ((ActiveNodes.ofNodes nodes).admits winner.node = true →
          (resolve tasks (.ofNodes nodes)).get? slot = some winner) ∧
        ∀ heir, (resolve tasks (.ofNodes nodes)).get? slot = some heir →
          ¬heir.key < winner.key := by
  refine ⟨isSome_of_fewer fewer, fun winner found => ⟨get?_of_admitted fewer found, ?_⟩⟩
  intro heir left
  exact not_key_lt_of_fewer fewer found left

/-- A task that starts on one node, the one of its slot that still runs on another, and a task of
another slot. -/
private def successor : Task := ⟨"a", "svc", 1, "n1", .known .running, .known .starting, none, ""⟩
private def predecessor : Task := ⟨"b", "svc", 1, "n2", .known .running, .known .running, none, ""⟩
private def bystander : Task := ⟨"c", "svc", 2, "n2", .known .running, .known .running, none, ""⟩

/-- Where the holder loses its node, the next in order takes the slot. -/
theorem resolve_of_fewer_nodes_succeeded :
    (ActiveNodes.ofNodes [⟨"n1", .down⟩, ⟨"n2", .ready⟩]).ids ⊆
        (ActiveNodes.ofNodes [⟨"n1", .ready⟩, ⟨"n2", .ready⟩]).ids ∧
      (resolve [successor, predecessor, bystander]
        (.ofNodes [⟨"n1", .ready⟩, ⟨"n2", .ready⟩])).get? 1 = some successor ∧
      (resolve [successor, predecessor, bystander]
        (.ofNodes [⟨"n1", .down⟩, ⟨"n2", .ready⟩])).get? 1 = some predecessor ∧
      ¬predecessor.key < successor.key ∧
      (resolve [successor, predecessor, bystander]
        (.ofNodes [⟨"n1", .down⟩, ⟨"n2", .ready⟩])).get? 2 = some bystander := by
  have fewer : (ActiveNodes.ofNodes [⟨"n1", .down⟩, ⟨"n2", .ready⟩]).ids ⊆
      (ActiveNodes.ofNodes [⟨"n1", .ready⟩, ⟨"n2", .ready⟩]).ids := by decide
  have held : (resolve [successor, predecessor, bystander]
      (.ofNodes [⟨"n1", .ready⟩, ⟨"n2", .ready⟩])).get? 1 = some successor := by decide
  have left : (resolve [successor, predecessor, bystander]
      (.ofNodes [⟨"n1", .down⟩, ⟨"n2", .ready⟩])).get? 1 = some predecessor := by decide
  refine ⟨fewer, held, left, ?_, ?_⟩
  · exact ((resolve_of_fewer_nodes _ _ _ fewer 1).2 successor held).2 predecessor left
  · exact ((resolve_of_fewer_nodes _ _ _ fewer 2).2 bystander (by decide)).1 (by decide)

end SlotMap

end ReplicaWatch
