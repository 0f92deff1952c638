import ReplicaWatch.Proofs.Cluster.Answering

/-! # The life of a scripted cluster

Calls arrive at a scripted cluster, and its script, its containers and its queued failures are
added to, in any order (`ScriptedCluster.Act`). A service that is removed once stays removed
(`ScriptedCluster.removedServices_acts`), and no inspection finds it again
(`ScriptedCluster.uninspected_of_removed`).
-/

namespace ReplicaWatch.ScriptedCluster

/-- What can happen to a scripted cluster. -/
inductive Act where
  | call (call : Call)
  | pushFrame (frame : Frame)
  | addContainer (id : String) (behavior : ContainerBehavior)
  | failNext (operation : Operation) (error : ClusterError)

/-- The cluster after an act. -/
def act (cluster : ScriptedCluster) : Act → ScriptedCluster
  | .call call => (cluster.answer call).2
  | .pushFrame frame => cluster.pushFrame frame
  | .addContainer id behavior => cluster.addContainer id behavior
  | .failNext operation error => cluster.failNext operation error

/-- The cluster after a number of acts. -/
def acts (cluster : ScriptedCluster) (steps : List Act) : ScriptedCluster := steps.foldl act cluster

variable {id : String}

/-- A call removes at most the service that it names. -/
theorem removedServices_answer (cluster : ScriptedCluster) (call : Call) :
    (cluster.answer call).2.removedServices = cluster.removedServices ∨
      ∃ id, call = .removeService id ∧ id ∉ cluster.removedServices ∧
        (cluster.answer call).2.removedServices = cluster.removedServices ++ [id] := by
  have ends := answer_ends cluster call
  generalize cluster.answer call = answered at ends ⊢
  cases ends with
  | removed free known unremoved => exact .inr ⟨_, rfl, unremoved, rfl⟩
  | _ => exact .inl rfl

theorem removedServices_of_other (cluster : ScriptedCluster) (call : Call)
    (other : call.operation ≠ .removeService) :
    (cluster.answer call).2.removedServices = cluster.removedServices := by
  rcases removedServices_answer cluster call with same | ⟨id, rfl, -⟩
  · exact same
  · exact absurd rfl other

/-- No act brings a removed service back. -/
theorem removedServices_act (cluster : ScriptedCluster) (step : Act) :
    cluster.removedServices <+: (cluster.act step).removedServices := by
  cases step with
  | call call =>
    rcases removedServices_answer cluster call with same | ⟨id, -, -, grown⟩
    · exact ⟨[], by rw [act, same, List.append_nil]⟩
    · exact ⟨[id], grown.symm⟩
  | pushFrame frame => exact List.prefix_rfl
  | addContainer id behavior => exact List.prefix_rfl
  | failNext operation error => exact List.prefix_rfl

/-- **Removal is final.** Whatever happens to a cluster, its removed services stay
removed. -/
theorem removedServices_acts (cluster : ScriptedCluster) (steps : List Act) :
    cluster.removedServices <+: (cluster.acts steps).removedServices := by
  induction steps generalizing cluster with
  | nil => exact List.prefix_rfl
  | cons step rest ih => exact (removedServices_act cluster step).trans (ih (cluster.act step))

/-- A removed service is not found. -/
theorem uninspected_of_removed {cluster : ScriptedCluster} (removed : id ∈ cluster.removedServices)
    (service : Service) : (cluster.answer (.inspectService id)).1 ≠ some (.ok service) := by
  intro inspected
  have ends := answer_ends cluster (.inspectService id)
  generalize cluster.answer (.inspectService id) = answered at ends inspected
  cases ends with
  | failed => cases inspected
  | missed => cases inspected
  | inspected free found =>
    have gone : cluster.advanced.removedServices.contains id = true := by
      rw [List.contains_iff_mem]
      exact removed
    rw [service?, if_pos gone] at found
    cases found

end ReplicaWatch.ScriptedCluster
