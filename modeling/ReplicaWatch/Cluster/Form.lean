import ReplicaWatch.Cluster.Call
import ReplicaWatch.Json.Entries

/-! # The stored form of cluster records

Every record has one form in JSON, `toJson`, and a reader `ofJson?` that also takes the
other forms of the same record: fields in any order, unknown fields beside them, an
array in place of an object, a variant without contents written as an object.
-/

namespace ReplicaWatch

open Json

/-- One more than the largest number in 64 bits. -/
def wordLimit : Nat := Nat.pow 2 64

namespace TaskState

/-- The stored form of a state. -/
def toJson (state : TaskState) : Json := .string state.name

/-- Reads the stored form of a state. -/
def ofJson? (value : Json) : Option TaskState := (variant? value).bind ofName?

end TaskState

namespace ReportedState

/-- The stored form of a reported state is its text. -/
def toJson (reported : ReportedState) : Json := .string reported.text

/-- Reads the stored form of a reported state. -/
def ofJson? (value : Json) : Option ReportedState := value.string?.map ofText

end ReportedState

namespace NodeState

/-- The stored form of an availability. -/
def toJson (state : NodeState) : Json := .string state.name

/-- Reads the stored form of an availability; any other name is an unknown one. -/
def ofJson? (value : Json) : Option NodeState := (variant? value).map ofText

end NodeState

namespace RolloutState

/-- The stored form of a rollout state. -/
def toJson (state : RolloutState) : Json := .string state.name

/-- Reads the stored form of a rollout state. -/
def ofJson? (value : Json) : Option RolloutState := (variant? value).bind ofName?

end RolloutState

namespace Task

/-- The stored form of a task. -/
def toJson (task : Task) : Json :=
  .record [
    ("id", .string task.id),
    ("service_id", .string task.service),
    ("slot", .natural task.slot),
    ("node_id", .string task.node),
    ("desired_state", task.desired.toJson),
    ("observed_state", task.observed.toJson),
    ("container_id", .nullable .string task.containerId),
    ("message", .string task.message)]

/-- The fields of a stored task. -/
def layout : Layout :=
  .exact ["id", "service_id", "slot", "node_id", "desired_state", "observed_state",
    "container_id", "message"]

/-- Reads the stored form of a task. -/
def ofJson? (value : Json) : Option Task := do
  let entries ← entries? layout value
  let id ← required? entries "id" string?
  let service ← required? entries "service_id" string?
  let slot ← required? entries "slot" (natural? wordLimit)
  let node ← required? entries "node_id" string?
  let desired ← required? entries "desired_state" ReportedState.ofJson?
  let observed ← required? entries "observed_state" ReportedState.ofJson?
  let containerId ← default? entries "container_id" none (nullable? string?)
  let message ← required? entries "message" string?
  return { id, service, slot, node, desired, observed, containerId, message }

end Task

namespace Node

/-- The stored form of a node. -/
def toJson (node : Node) : Json :=
  .record [("id", .string node.id), ("state", node.state.toJson)]

/-- Reads the stored form of a node. -/
def ofJson? (value : Json) : Option Node := do
  let entries ← entries? (.exact ["id", "state"]) value
  let id ← required? entries "id" string?
  let state ← required? entries "state" NodeState.ofJson?
  return { id, state }

end Node

namespace UpdateStatus

/-- The stored form of an update status. -/
def toJson (status : UpdateStatus) : Json :=
  .record [("state", status.state.toJson), ("message", .string status.message)]

/-- Reads the stored form of an update status. -/
def ofJson? (value : Json) : Option UpdateStatus := do
  let entries ← entries? (.exact ["state", "message"]) value
  let state ← required? entries "state" RolloutState.ofJson?
  let message ← required? entries "message" string?
  return { state, message }

end UpdateStatus

namespace ServiceMode

/-- The stored form of a mode. -/
def toJson : ServiceMode → Json
  | .replicated replicas =>
    .record [("replicated", .record [("replicas", .nullable .natural replicas)])]
  | .global => .string "global"
  | .job => .string "job"

/-- Reads the contents of a replicated mode. -/
def replicatedOfJson? (value : Json) : Option ServiceMode := do
  let entries ← entries? (.exact ["replicas"]) value
  let replicas ← default? entries "replicas" none (nullable? (natural? wordLimit))
  return .replicated replicas

/-- Reads the stored form of a mode. -/
def ofJson? (value : Json) : Option ServiceMode :=
  match value with
  | .object [(some "replicated", contents)] => replicatedOfJson? contents
  | value =>
    match variant? value with
    | some "global" => some .global
    | some "job" => some .job
    | _ => none

end ServiceMode

namespace Duration

/-- The stored form of a length of time: whole seconds and the nanoseconds beyond. -/
def toJson (d : Duration) : Json :=
  .record [("secs", .natural d.seconds), ("nanos", .natural d.subsecondNanos)]

/-- Reads the stored form of a length of time, in which no other field may stand.
Nanoseconds that make up whole seconds are carried. -/
def ofJson? (value : Json) : Option Duration := do
  let entries ← entries? (.exact ["secs", "nanos"]) value
  match value with
  | .object fields => guard (fields.length = entries.length)
  | _ => pure ()
  let seconds ← required? entries "secs" (natural? wordLimit)
  let nanos ← required? entries "nanos" (natural? (Nat.pow 2 32))
  ofNanos? (seconds * 1000000000 + nanos)

end Duration

namespace Service

/-- The stored form of a service. -/
def toJson (service : Service) : Json :=
  .record [
    ("id", .string service.id),
    ("name", .string service.name),
    ("mode", service.mode.toJson),
    ("update_status", .nullable UpdateStatus.toJson service.updateStatus),
    ("stop_grace_period", .nullable Duration.toJson service.stopGracePeriod)]

/-- The fields of a stored service. -/
def layout : Layout := .exact ["id", "name", "mode", "update_status", "stop_grace_period"]

/-- Reads the stored form of a service. -/
def ofJson? (value : Json) : Option Service := do
  let entries ← entries? layout value
  let id ← required? entries "id" string?
  let name ← required? entries "name" string?
  let mode ← required? entries "mode" ServiceMode.ofJson?
  let updateStatus ← default? entries "update_status" none (nullable? UpdateStatus.ofJson?)
  let stopGracePeriod ← default? entries "stop_grace_period" none (nullable? Duration.ofJson?)
  return { id, name, mode, updateStatus, stopGracePeriod }

end Service

namespace TaskFilter

/-- The stored form of a filter. -/
def toJson (filter : TaskFilter) : Json :=
  .record [
    ("service_id", .string filter.service),
    ("desired_state", .nullable TaskState.toJson filter.desired)]

/-- Reads the stored form of a filter. -/
def ofJson? (value : Json) : Option TaskFilter := do
  let entries ← entries? (.exact ["service_id", "desired_state"]) value
  let service ← required? entries "service_id" string?
  let desired ← default? entries "desired_state" none (nullable? TaskState.ofJson?)
  return { service, desired }

end TaskFilter

namespace RemoveOptions

/-- The stored form of the options. -/
def toJson (options : RemoveOptions) : Json :=
  .record [("remove_volumes", .bool options.volumes), ("force", .bool options.force)]

/-- Reads the stored form of the options. -/
def ofJson? (value : Json) : Option RemoveOptions := do
  let entries ← entries? (.exact ["remove_volumes", "force"]) value
  let volumes ← required? entries "remove_volumes" bool?
  let force ← required? entries "force" bool?
  return { volumes, force }

end RemoveOptions

end ReplicaWatch
