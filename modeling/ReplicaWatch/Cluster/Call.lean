import ReplicaWatch.Cluster.Error
import ReplicaWatch.Cluster.Record

/-! # Calls of the orchestrator's interface

The six calls through which a cluster is read and changed, and what each answers when
it succeeds.
-/

namespace ReplicaWatch

/-- Which tasks to list. -/
structure TaskFilter where
  service : String
  /-- Only tasks whose desired state is this one. -/
  desired : Option TaskState
  deriving DecidableEq

namespace TaskFilter

/-- All tasks of a service. -/
def all (service : String) : TaskFilter := ⟨service, none⟩

/-- The tasks of a service that the orchestrator wants running. -/
def running (service : String) : TaskFilter := ⟨service, some .running⟩

end TaskFilter

/-- How to remove a container. -/
structure RemoveOptions where
  /-- Also remove the container's anonymous volumes. -/
  volumes : Bool
  /-- Kill the container if it still runs. -/
  force : Bool
  deriving DecidableEq

/-- Removal by force, volumes included. -/
def RemoveOptions.forced : RemoveOptions := ⟨true, true⟩

/-- The kinds of calls. -/
inductive Operation where
  | listTasks
  | listNodes
  | inspectService
  | removeService
  | removeContainer
  | waitContainerRemoved
  deriving DecidableEq

/-- The name of a kind of call. -/
def Operation.name : Operation → String
  | .listTasks => "list_tasks"
  | .listNodes => "list_nodes"
  | .inspectService => "inspect_service"
  | .removeService => "remove_service"
  | .removeContainer => "remove_container"
  | .waitContainerRemoved => "wait_container_removed"

/-- A call. -/
inductive Call where
  | listTasks (filter : TaskFilter)
  | listNodes
  | inspectService (service : String)
  | removeService (service : String)
  | removeContainer (container : String) (options : RemoveOptions)
  /-- Blocks until the container is removed. -/
  | waitContainerRemoved (container : String)
  deriving DecidableEq

namespace Call

/-- The kind of a call. -/
def operation : Call → Operation
  | .listTasks _ => .listTasks
  | .listNodes => .listNodes
  | .inspectService _ => .inspectService
  | .removeService _ => .removeService
  | .removeContainer _ _ => .removeContainer
  | .waitContainerRemoved _ => .waitContainerRemoved

/-- What a call answers when it succeeds. A wait for a container answers the exit
code. -/
abbrev Success : Call → Type
  | .listTasks _ => List Task
  | .listNodes => List Node
  | .inspectService _ => Service
  | .removeService _ => Unit
  | .removeContainer _ _ => Unit
  | .waitContainerRemoved _ => Int

/-- What a call answers. -/
abbrev Answer (call : Call) : Type := Except ClusterError call.Success

end Call

end ReplicaWatch
