import ReplicaWatch.Cluster.Call

/-! # A scripted cluster

A cluster that replays a script of frames. Each inspection of a service goes on to the
next frame, and the last one repeats for ever; the listings read the frame that was
inspected last. Failures can be queued for each kind of call, and containers either exit
when they are waited for or linger.
-/

namespace ReplicaWatch

/-- One state of the cluster as the calls show it. -/
structure Frame where
  service : Option Service
  tasks : List Task
  nodes : List Node
  deriving DecidableEq

/-- What a container does when someone waits until it is gone. -/
inductive ContainerBehavior where
  /-- Exits with a code and is removed. -/
  | exits (code : Int)
  /-- Does not go away on its own. -/
  | lingers
  deriving DecidableEq

/-- A cluster that follows a script. -/
structure ScriptedCluster where
  frames : List Frame
  /-- The inspections that went on to a frame. -/
  inspections : Nat
  removedServices : List String
  /-- The containers that exist, each id once. -/
  containers : List (String × ContainerBehavior)
  /-- The containers that were removed by a call, in order. -/
  removedContainers : List String
  /-- The failures that are queued for each kind of call. -/
  failures : Operation → List ClusterError
  /-- The calls that arrived, the latest one first. -/
  journal : List Call

namespace ScriptedCluster

/-- A cluster that replays some frames. -/
def ofFrames (frames : List Frame) : ScriptedCluster where
  frames := frames
  inspections := 0
  removedServices := []
  containers := []
  removedContainers := []
  failures := fun _ => []
  journal := []

/-- The calls that arrived, in order. -/
def calls (cluster : ScriptedCluster) : List Call := cluster.journal.reverse

/-- The frame that was inspected last; the first one before any inspection. -/
def currentFrame? (cluster : ScriptedCluster) : Option Frame :=
  match cluster.frames[cluster.inspections - 1]? with
  | some frame => some frame
  | none => cluster.frames.getLast?

/-- Adds a frame at the end of the script. -/
def pushFrame (cluster : ScriptedCluster) (frame : Frame) : ScriptedCluster :=
  { cluster with frames := cluster.frames ++ [frame] }

/-- Registers a container, in place of one with the same id. -/
def addContainer (cluster : ScriptedCluster) (id : String) (behavior : ContainerBehavior) :
    ScriptedCluster :=
  { cluster with containers := (id, behavior) :: cluster.containers.filter fun c => c.1 != id }

/-- Queues a failure for the next call of a kind that has none queued before it. -/
def failNext (cluster : ScriptedCluster) (operation : Operation) (error : ClusterError) :
    ScriptedCluster :=
  { cluster with
    failures := fun op =>
      if op = operation then cluster.failures op ++ [error] else cluster.failures op }

/-- What a container does when it is waited for, if it exists. -/
def container? (cluster : ScriptedCluster) (id : String) : Option ContainerBehavior :=
  cluster.containers.lookup id

/-- The cluster without a container. -/
def withoutContainer (cluster : ScriptedCluster) (id : String) : ScriptedCluster :=
  { cluster with containers := cluster.containers.filter fun c => c.1 != id }

/-- The cluster with a call noted. -/
def noting (cluster : ScriptedCluster) (call : Call) : ScriptedCluster :=
  { cluster with journal := call :: cluster.journal }

/-- The cluster without the first failure that is queued for a kind of call. -/
def withoutFailure (cluster : ScriptedCluster) (operation : Operation) : ScriptedCluster :=
  { cluster with
    failures := fun op =>
      if op = operation then (cluster.failures op).tail else cluster.failures op }

/-- No service has this id. -/
def missingService (id : String) : ClusterError := .notFound s!"service {id} not found"

/-- No container has this id. -/
def missingContainer (id : String) : ClusterError := .notFound s!"No such container: {id}"

/-- Whether a listing of a service's tasks shows a task. A task that names no service
belongs to each. -/
def lists (filter : TaskFilter) (task : Task) : Bool :=
  (task.service.isEmpty || task.service == filter.service) &&
    (match filter.desired with
      | none => true
      | some state => task.desired.is state)

/-- The tasks that a listing shows. -/
def tasksFor (cluster : ScriptedCluster) (filter : TaskFilter) : List Task :=
  if cluster.removedServices.contains filter.service then []
  else
    match cluster.currentFrame? with
    | none => []
    | some frame => frame.tasks.filter (lists filter)

/-- The nodes that a listing shows. -/
def nodes (cluster : ScriptedCluster) : List Node :=
  match cluster.currentFrame? with
  | none => []
  | some frame => frame.nodes

/-- The service with an id, if the current frame holds it and it was not removed. -/
def service? (cluster : ScriptedCluster) (id : String) : Option Service :=
  if cluster.removedServices.contains id then none
  else
    match cluster.currentFrame? with
    | none => none
    | some frame => frame.service.filter fun service => service.id == id

/-- Whether some frame of the script holds a service. -/
def knows (cluster : ScriptedCluster) (id : String) : Bool :=
  cluster.frames.any fun frame =>
    match frame.service with
    | none => false
    | some service => service.id == id

/-- The effect and the answer of a call for which no failure is queued. A wait for a
container that lingers is never answered. -/
def perform (cluster : ScriptedCluster) : (call : Call) → Option call.Answer × ScriptedCluster
  | .listTasks filter => (some (.ok (cluster.tasksFor filter)), cluster)
  | .listNodes => (some (.ok cluster.nodes), cluster)
  | .inspectService id =>
    let cluster := { cluster with inspections := cluster.inspections + 1 }
    match cluster.service? id with
    | some service => (some (.ok service), cluster)
    | none => (some (.error (missingService id)), cluster)
  | .removeService id =>
    if cluster.knows id && !cluster.removedServices.contains id then
      (some (.ok ()), { cluster with removedServices := cluster.removedServices ++ [id] })
    else (some (.error (missingService id)), cluster)
  | .removeContainer id _ =>
    match cluster.container? id with
    | some _ =>
      (some (.ok ()),
        { cluster.withoutContainer id with
          removedContainers := cluster.removedContainers ++ [id] })
    | none => (some (.error (missingContainer id)), cluster)
  | .waitContainerRemoved id =>
    match cluster.container? id with
    | some (.exits code) => (some (.ok code), cluster.withoutContainer id)
    | some .lingers => (none, cluster)
    | none => (some (.error (missingContainer id)), cluster)

/-- Answers a call: with the first failure that is queued for its kind, else by its
effect. -/
def answer (cluster : ScriptedCluster) (call : Call) : Option call.Answer × ScriptedCluster :=
  match cluster.failures call.operation with
  | error :: _ => (some (.error error), (cluster.noting call).withoutFailure call.operation)
  | [] => (cluster.noting call).perform call

end ScriptedCluster

end ReplicaWatch
