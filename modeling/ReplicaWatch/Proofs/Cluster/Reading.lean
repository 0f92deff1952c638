import ReplicaWatch.Proofs.Cluster.Answering
import ReplicaWatch.Proofs.Dialogue.Conversation

/-! # Looking at a scripted cluster

The calls that only read are always answered by a scripted cluster, and leave all of it as
it was that a removal could change (`ScriptedCluster.Untouched`): they move on in the script,
and use up failures that are queued for them.
-/

namespace ReplicaWatch.ScriptedCluster

variable {α : Type} {id : String}

/-- What reading a cluster leaves alone. Failures may be used up. -/
structure Untouched (before after : ScriptedCluster) : Prop where
  frames : after.frames = before.frames
  removedServices : after.removedServices = before.removedServices
  containers : after.containers = before.containers
  removedContainers : after.removedContainers = before.removedContainers
  failures : ∀ operation, after.failures operation <:+ before.failures operation

namespace Untouched

theorem refl (cluster : ScriptedCluster) : Untouched cluster cluster :=
  ⟨rfl, rfl, rfl, rfl, fun _ => List.suffix_rfl⟩

theorem trans {first second third : ScriptedCluster} (former : Untouched first second)
    (latter : Untouched second third) : Untouched first third where
  frames := latter.frames.trans former.frames
  removedServices := latter.removedServices.trans former.removedServices
  containers := latter.containers.trans former.containers
  removedContainers := latter.removedContainers.trans former.removedContainers
  failures operation := (latter.failures operation).trans (former.failures operation)

end Untouched

/-- A queue that a failure is taken from is a rest of what it was. -/
theorem withoutFailure_failures_suffix (cluster : ScriptedCluster) (operation other : Operation) :
    (cluster.withoutFailure operation).failures other <:+ cluster.failures other := by
  simp only [withoutFailure]
  split
  · exact List.tail_suffix _
  · exact List.suffix_rfl

/-- Delivering a failure touches nothing. -/
theorem untouched_withoutFailure (cluster : ScriptedCluster) (call : Call)
    (operation : Operation) :
    Untouched cluster ((cluster.noting call).withoutFailure operation) :=
  ⟨rfl, rfl, rfl, rfl, withoutFailure_failures_suffix cluster operation⟩

/-- **Reading is harmless.** -/
theorem answer_untouched {call : Call} (reads : call.operation.isRead = true)
    (cluster : ScriptedCluster) : Untouched cluster (cluster.answer call).2 := by
  have ends := answer_ends cluster call
  generalize cluster.answer call = answered at ends ⊢
  cases ends with
  | failed => exact untouched_withoutFailure cluster call _
  | tasksListed => exact ⟨rfl, rfl, rfl, rfl, fun _ => List.suffix_rfl⟩
  | nodesListed => exact ⟨rfl, rfl, rfl, rfl, fun _ => List.suffix_rfl⟩
  | inspected => exact ⟨rfl, rfl, rfl, rfl, fun _ => List.suffix_rfl⟩
  | missed => exact ⟨rfl, rfl, rfl, rfl, fun _ => List.suffix_rfl⟩
  | _ => cases reads

/-- Only a wait for a container may go without an answer. -/
theorem answer_isSome {call : Call} (prompt : call.operation ≠ .waitContainerRemoved)
    (cluster : ScriptedCluster) : ∃ answer after, cluster.answer call = (some answer, after) := by
  have ends := answer_ends cluster call
  generalize cluster.answer call = answered at ends ⊢
  cases ends with
  | lingering => exact absurd rfl prompt
  | _ => exact ⟨_, _, rfl⟩

/-- No call that only reads waits for a container. -/
theorem prompt_of_isRead {call : Call} (reads : call.operation.isRead = true) :
    call.operation ≠ .waitContainerRemoved := by
  intro waits
  rw [waits] at reads
  cases reads

/-- Holds a dialogue with a cluster, off the clock. -/
def converse : Dialogue Call Call.Answer α → ScriptedCluster → Option α × ScriptedCluster
  | .finish result, cluster => (some result, cluster)
  | .ask call next, cluster =>
    match cluster.answer call with
    | (some answer, cluster) => converse (next answer) cluster
    | (none, cluster) => (none, cluster)

/-- A conversation that only looks at a service is always answered. -/
theorem converse_isSome {dialogue : Dialogue Call Call.Answer α}
    (asks : dialogue.Asks (Call.LooksAt id)) (cluster : ScriptedCluster) :
    (converse dialogue cluster).1.isSome := by
  induction dialogue generalizing cluster with
  | finish result => rfl
  | ask call next ih =>
    obtain ⟨answer, after, answered⟩ := answer_isSome (prompt_of_isRead asks.1.isRead) cluster
    simp only [converse, answered]
    exact ih answer (asks.2 answer) after

end ReplicaWatch.ScriptedCluster
