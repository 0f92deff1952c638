import ReplicaWatch.Cluster.Form

/-! # What the daemon sends

The records of a cluster as the daemon's interface writes them. Only the fields that are
needed are read; those that are left out have the values the daemon means by it.
-/

namespace ReplicaWatch.Payload

open Json

mutual

/-- Whether every text in a value is a string. -/
def isPlain : Json → Bool
  | .text content => content.isSome
  | .array items => arePlain items
  | .object fields => fieldsPlain fields
  | _ => true

/-- Whether every text in some values is a string. -/
def arePlain : List Json → Bool
  | [] => true
  | item :: rest => isPlain item && arePlain rest

/-- Whether every text in some fields is a string. -/
def fieldsPlain : List (Option String × Json) → Bool
  | [] => true
  | (name, value) :: rest => name.isSome && isPlain value && fieldsPlain rest

end

/-- Reads whether something is present: any value that is not `null`. -/
def presence? (value : Json) : Option Bool :=
  if value.isNull then some false else if isPlain value then some true else none

/-- The state, the message and the container of a task. -/
structure TaskStatus where
  state : String
  message : String
  container : Option String

/-- Reads the id of a container. -/
def container? (value : Json) : Option String := do
  let entries ← entries? (.open ["ContainerID"] 0) value
  default? entries "ContainerID" "" string?

/-- Reads the status of a task. -/
def taskStatus? (value : Json) : Option TaskStatus := do
  let entries ← entries? (.open ["State", "Message", "ContainerStatus"] 0) value
  let state ← default? entries "State" "" string?
  let message ← default? entries "Message" "" string?
  let container ← default? entries "ContainerStatus" none (nullable? container?)
  return { state, message, container }

/-- Reads a task. A blank container id is none. -/
def task? (value : Json) : Option Task := do
  let entries ←
    entries? (.open ["ID", "ServiceID", "Slot", "NodeID", "DesiredState", "Status"] 1) value
  let id ← required? entries "ID" string?
  let service ← default? entries "ServiceID" "" string?
  let slot ← default? entries "Slot" 0 (natural? wordLimit)
  let node ← default? entries "NodeID" "" string?
  let desired ← default? entries "DesiredState" "" string?
  let status ← default? entries "Status" ⟨"", "", none⟩ taskStatus?
  return {
    id, service, slot, node
    desired := .ofText desired
    observed := .ofText status.state
    containerId := status.container.filter fun id => !(Text.trim id).isEmpty
    message := status.message }

/-- Reads the availability of a node. -/
def nodeStatus? (value : Json) : Option NodeState := do
  let entries ← entries? (.open ["State"] 0) value
  default? entries "State" .unknown NodeState.ofJson?

/-- Reads a node. -/
def node? (value : Json) : Option Node := do
  let entries ← entries? (.open ["ID", "Status"] 1) value
  let id ← required? entries "ID" string?
  let state ← default? entries "Status" .unknown nodeStatus?
  return { id, state }

/-- Reads the number of replicas of a replicated service. -/
def replicated? (value : Json) : Option (Option Nat) := do
  let entries ← entries? (.open ["Replicas"] 0) value
  default? entries "Replicas" none (nullable? (natural? wordLimit))

/-- Reads the mode of a service. Without one the daemon means a replicated service. -/
def mode? (value : Json) : Option ServiceMode := do
  let entries ← entries? (.open ["Replicated", "Global", "ReplicatedJob", "GlobalJob"] 0) value
  let replicated ← default? entries "Replicated" none (nullable? replicated?)
  let global ← default? entries "Global" false presence?
  let replicatedJob ← default? entries "ReplicatedJob" false presence?
  let globalJob ← default? entries "GlobalJob" false presence?
  return (
    match replicated with
    | some replicas => .replicated replicas
    | none =>
      if global then .global
      else if replicatedJob || globalJob then .job
      else .replicated none)

/-- Reads an integer that fits into 64 bits with a sign. -/
def long? : Json → Option Int := integer? (-9223372036854775808) 9223372036854775807

/-- Reads a grace period in nanoseconds; a negative one is none. -/
def containerSpec? (value : Json) : Option (Option Duration) := do
  let entries ← entries? (.open ["StopGracePeriod"] 0) value
  let period ← default? entries "StopGracePeriod" none (nullable? long?)
  return (
    match period with
    | some (.ofNat nanos) => Duration.ofNanos? nanos
    | _ => none)

/-- Reads the grace period of a task template. -/
def taskTemplate? (value : Json) : Option (Option Duration) := do
  let entries ← entries? (.open ["ContainerSpec"] 0) value
  let period ← default? entries "ContainerSpec" none (nullable? containerSpec?)
  return period.join

/-- The name, the mode and the grace period of a service. -/
structure ServiceSpec where
  name : String
  mode : ServiceMode
  stopGracePeriod : Option Duration

/-- Reads the specification of a service. -/
def serviceSpec? (value : Json) : Option ServiceSpec := do
  let entries ← entries? (.open ["Name", "Mode", "TaskTemplate"] 0) value
  let name ← default? entries "Name" "" string?
  let mode ← default? entries "Mode" (.replicated none) mode?
  let stopGracePeriod ← default? entries "TaskTemplate" none taskTemplate?
  return { name, mode, stopGracePeriod }

/-- Reads an update status; one in a state that is not known is none. -/
def updateStatus? (value : Json) : Option (Option UpdateStatus) := do
  let entries ← entries? (.open ["State", "Message"] 0) value
  let state ← default? entries "State" "" string?
  let message ← default? entries "Message" "" string?
  return (RolloutState.ofName? state).map fun state => { state, message }

/-- Reads a service. -/
def service? (value : Json) : Option Service := do
  let entries ← entries? (.open ["ID", "Spec", "UpdateStatus"] 1) value
  let id ← required? entries "ID" string?
  let spec ← default? entries "Spec" ⟨"", .replicated none, none⟩ serviceSpec?
  let updateStatus ← default? entries "UpdateStatus" none (nullable? updateStatus?)
  return {
    id
    name := spec.name
    mode := spec.mode
    updateStatus := updateStatus.join
    stopGracePeriod := spec.stopGracePeriod }

/-- Reads a list of records. -/
def list? {α : Type} (read : Json → Option α) : Json → Option (List α)
  | .array items => items.mapM read
  | _ => none

/-- Reads the message of an error. -/
def waitError? (value : Json) : Option String := do
  let entries ← entries? (.open ["Message"] 0) value
  default? entries "Message" "" string?

/-- Reads the end of a container: its exit code, and the message of an error. -/
def exit? (value : Json) : Option (Int × Option String) := do
  let entries ← entries? (.open ["StatusCode", "Error"] 1) value
  let code ← required? entries "StatusCode" long?
  let error ← default? entries "Error" none (nullable? waitError?)
  return (code, error)

/-- Reads the message of a refusal. -/
def refusal? (value : Json) : Option String := do
  let entries ← entries? (.exact ["message"]) value
  required? entries "message" string?

end ReplicaWatch.Payload
