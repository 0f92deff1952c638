import ReplicaWatch.Cluster.State
import ReplicaWatch.Duration
import ReplicaWatch.Text.Blank

/-! # Records of a cluster

What an orchestrator answers about tasks, nodes and services. Every record is a
snapshot that nothing here changes: a task is superseded by another record for the
same slot.
-/

namespace ReplicaWatch

/-- One attempt to run one replica of a service. -/
structure Task where
  id : String
  service : String
  slot : Nat
  /-- The node the task is placed on; empty while it is unassigned. -/
  node : String
  desired : ReportedState
  observed : ReportedState
  /-- The container behind the task, once there is one. -/
  containerId : Option String
  message : String
  deriving DecidableEq

/-- The trimmed container id of a task, if it is not blank. -/
def Task.container? (task : Task) : Option String :=
  match task.containerId with
  | none => none
  | some id => if (Text.trim id).isEmpty then none else some (Text.trim id)

/-- A member of the cluster. -/
structure Node where
  id : String
  state : NodeState
  deriving DecidableEq

/-- Whether tasks on a node may count. Only a node that is reported down may not have
its tasks counted. -/
def Node.isActive (node : Node) : Bool := node.state != .down

/-- The progress of a service's update, as the orchestrator reports it. -/
structure UpdateStatus where
  state : RolloutState
  message : String
  deriving DecidableEq

/-- How the tasks of a service are scheduled. -/
inductive ServiceMode where
  /-- A number of replicas, if it is given. -/
  | replicated (replicas : Option Nat)
  | global
  | job
  deriving DecidableEq

/-- A service: what the cluster is asked to run. -/
structure Service where
  id : String
  name : String
  mode : ServiceMode
  updateStatus : Option UpdateStatus
  /-- The time a container has to stop before it is killed. -/
  stopGracePeriod : Option Duration
  deriving DecidableEq

namespace Service

/-- The number of replicas that are wanted, if the service gives one. -/
def replicas? (service : Service) : Option Nat :=
  match service.mode with
  | .replicated replicas => replicas
  | .global => none
  | .job => none

/-- The state of the rollout, if an update has been reported. -/
def rolloutState? (service : Service) : Option RolloutState :=
  service.updateStatus.map UpdateStatus.state

/-- The message of the update status; empty without one. -/
def updateMessage (service : Service) : String :=
  match service.updateStatus with
  | none => ""
  | some status => status.message

/-- The stop grace period, if there is one and it is not zero. -/
def gracePeriod? (service : Service) : Option Duration :=
  service.stopGracePeriod.filter fun period => !period.isZero

end Service

end ReplicaWatch
