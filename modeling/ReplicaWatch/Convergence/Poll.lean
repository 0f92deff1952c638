import ReplicaWatch.Convergence.Dialogue
import ReplicaWatch.Convergence.Rollout
import ReplicaWatch.Convergence.Session
import ReplicaWatch.Cluster.Call

/-! # One look at a service

A poll asks for the service, then for its tasks that are wanted running, then for the
nodes, and stops at the first call that fails. While an update is followed, its rollout
may decide the poll before the replicas are counted. A status asks the same three
questions and counts in any case.
-/

namespace ReplicaWatch

/-- Which operation a wait follows. -/
inductive ConvergenceMode where
  /-- The service was just created; its update status does not count. -/
  | creating
  /-- The service was updated; its rollout counts. -/
  | updating
  deriving DecidableEq

/-- The name of a mode. -/
def ConvergenceMode.name : ConvergenceMode → String
  | .creating => "creating"
  | .updating => "updating"

/-- What the rollout of a service says in a mode. -/
def ConvergenceMode.verdict : ConvergenceMode → Service → RolloutVerdict
  | .creating, _ => .keepCounting false
  | .updating, service => .assess service.updateStatus

/-- What one poll saw. -/
structure Observation where
  outcome : Outcome
  progress : Option Progress
  deriving DecidableEq

namespace Session

/-- The outcome of a poll that counted the replicas, and the session that goes on. -/
def count (session : Session) (snapshot : Snapshot) (rollback : Bool) :
    Except ConvergenceError Observation × Session :=
  match session.observe snapshot rollback with
  | (.error error, session) => (.error error, session)
  | (.ok progress, session) =>
    (.ok
      { outcome := .settle progress.isConverged rollback snapshot.service.updateMessage
        progress := some progress },
      session)

/-- One poll of the service with some id, given the timeout that its errors name. -/
def poll (mode : ConvergenceMode) (id : String) (timeout : Duration) (session : Session) :
    Dialogue Call Call.Answer (Except ConvergenceError Observation × Session) :=
  .ask (.inspectService id) fun
    | .error source => .finish (.error (.cluster id timeout source), session)
    | .ok service =>
      match mode.verdict service with
      | .completed => .finish (.ok ⟨.converged, none⟩, session)
      | .failed failure => .finish (.ok ⟨.failed failure, none⟩, session)
      | .keepCounting rollback =>
        .ask (.listTasks (.running id)) fun
          | .error source => .finish (.error (.cluster id timeout source), session)
          | .ok tasks =>
            .ask .listNodes fun
              | .error source => .finish (.error (.cluster id timeout source), session)
              | .ok nodes => .finish (session.count ⟨service, tasks, nodes⟩ rollback)

/-- One look at a service, without a wait around it. -/
def status (id : String) (rollback : Bool) :
    Dialogue Call Call.Answer (Except ConvergenceError Progress) :=
  .ask (.inspectService id) fun
    | .error source => .finish (.error (.cluster id .zero source))
    | .ok service =>
      .ask (.listTasks (.running id)) fun
        | .error source => .finish (.error (.cluster id .zero source))
        | .ok tasks =>
          .ask .listNodes fun
            | .error source => .finish (.error (.cluster id .zero source))
            | .ok nodes => .finish ((start id).observe ⟨service, tasks, nodes⟩ rollback).1

end Session

end ReplicaWatch
