import Mathlib.Data.List.Induction
import ReplicaWatch.Proofs.Cluster.Holding

/-! # The history of a scripted cluster

What has happened to a cluster is told by one event for each act, in order
(`ScriptedCluster.history`). A call is told with its answer, and with the failure that was queued
for it, if there was one; no other call can tell an injected failure from one of the cluster's own.
-/

namespace ReplicaWatch

namespace ScriptedCluster

/-- What is told of an act. -/
inductive Event where
  /-- A call with its answer, and the failure that was next in the queue for its kind. -/
  | called (entry : Call.Entry) (injected : Option ClusterError)
  | pushed (frame : Frame)
  | registered (id : String) (behavior : ContainerBehavior)
  | queued (operation : Operation) (error : ClusterError)

/-- What is told of an act on a cluster. -/
def event (cluster : ScriptedCluster) : Act → Event
  | .call call =>
    .called ⟨call, (cluster.answer call).1⟩ (cluster.failures call.operation).head?
  | .pushFrame frame => .pushed frame
  | .addContainer id behavior => .registered id behavior
  | .failNext operation error => .queued operation error

/-- What is told of some acts, one after another. -/
def history (cluster : ScriptedCluster) : List Act → List Event
  | [] => []
  | step :: steps => cluster.event step :: (cluster.act step).history steps

variable {cluster : ScriptedCluster} {steps : List Act} {former latter : List Event} {event : Event}

/-- A run may be cut in two at any act. -/
theorem acts_append (cluster : ScriptedCluster) (steps later : List Act) :
    cluster.acts (steps ++ later) = (cluster.acts steps).acts later :=
  List.foldl_append

theorem history_append (cluster : ScriptedCluster) (steps later : List Act) :
    cluster.history (steps ++ later) =
      cluster.history steps ++ (cluster.acts steps).history later := by
  induction steps generalizing cluster with
  | nil => rfl
  | cons step steps ih => exact congrArg _ (ih (cluster.act step))

theorem acts_concat (cluster : ScriptedCluster) (steps : List Act) (last : Act) :
    cluster.acts (steps ++ [last]) = (cluster.acts steps).act last :=
  cluster.acts_append steps [last]

theorem history_concat (cluster : ScriptedCluster) (steps : List Act) (last : Act) :
    cluster.history (steps ++ [last]) =
      cluster.history steps ++ [(cluster.acts steps).event last] :=
  cluster.history_append steps [last]

/-- Where a history is split, so are the acts. -/
theorem exists_acts_of_history (split : cluster.history steps = former ++ event :: latter) :
    ∃ earlier step later, steps = earlier ++ step :: later ∧ cluster.history earlier = former ∧
      (cluster.acts earlier).event step = event := by
  induction former generalizing cluster steps with
  | nil =>
    cases steps with
    | nil => cases split
    | cons step steps =>
      obtain ⟨told, -⟩ := List.cons.inj split
      exact ⟨[], step, steps, rfl, rfl, told⟩
  | cons first former ih =>
    cases steps with
    | nil => cases split
    | cons step steps =>
      obtain ⟨told, rest⟩ := List.cons.inj split
      obtain ⟨earlier, middle, later, rfl, before, found⟩ := ih rest
      refine ⟨step :: earlier, middle, later, rfl, ?_, found⟩
      rw [history, told, before]

/-- A list that every act extends by what is told of it holds what its history tells. -/
theorem field_acts {β : Type} {field : ScriptedCluster → List β} {told? : Event → Option β}
    (grows : ∀ cluster step,
      field (cluster.act step) = field cluster ++ (told? (cluster.event step)).toList)
    (cluster : ScriptedCluster) (steps : List Act) :
    field (cluster.acts steps) = field cluster ++ (cluster.history steps).filterMap told? := by
  induction steps generalizing cluster with
  | nil => exact (List.append_nil _).symm
  | cons step steps ih =>
    refine (ih (cluster.act step)).trans ?_
    rw [grows, List.append_assoc, history]
    cases told : told? (cluster.event step) with
    | none => rw [List.filterMap_cons_none told]; rfl
    | some one => rw [List.filterMap_cons_some told]; rfl

end ScriptedCluster

end ReplicaWatch
