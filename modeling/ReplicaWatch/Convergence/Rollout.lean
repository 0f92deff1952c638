import ReplicaWatch.Cluster.Record

/-! # The rollout of an update

What the update status of a service means for a wait, and how it joins with the count
of replicas: when the replicas converge while the orchestrator rolls back, the former
specification came back, and the update failed.
-/

namespace ReplicaWatch

/-- A state of a rollout that waiting longer cannot change. -/
inductive RolloutFailure where
  | rollbackCompleted (message : String)
  | updatePaused (message : String)
  | rollbackPaused (message : String)
  deriving DecidableEq

/-- What an update status says about a wait. -/
inductive RolloutVerdict where
  /-- The replicas have to be counted; during a rollback, those of the former
  specification. -/
  | keepCounting (rollback : Bool)
  /-- The orchestrator finished the update. -/
  | completed
  | failed (failure : RolloutFailure)
  deriving DecidableEq

/-- What one poll means for the wait. -/
inductive Outcome where
  | converged
  | pending
  | failed (failure : RolloutFailure)
  deriving DecidableEq

/-- Reads an update status. -/
def RolloutVerdict.assess : Option UpdateStatus → RolloutVerdict
  | none => .keepCounting false
  | some status =>
    match status.state with
    | .updating => .keepCounting false
    | .completed => .completed
    | .rollbackStarted => .keepCounting true
    | .rollbackCompleted => .failed (.rollbackCompleted status.message)
    | .paused => .failed (.updatePaused status.message)
    | .rollbackPaused => .failed (.rollbackPaused status.message)

/-- Joins the count of replicas with the rollback. -/
def Outcome.settle (converged rollback : Bool) (message : String) : Outcome :=
  if !converged then .pending
  else if rollback then .failed (.rollbackCompleted message)
  else .converged

end ReplicaWatch
