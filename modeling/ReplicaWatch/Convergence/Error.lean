import ReplicaWatch.Cluster.Error
import ReplicaWatch.Convergence.Config

/-! # Why a wait ended without success

The causes, their wording, and the questions a caller asks about one. A failed creation
is followed by a teardown; when that fails as well, the error holds both failures, and
every question is answered for the first of them, its `primary` failure.
-/

namespace ReplicaWatch

/-- Why a wait for convergence ended without success. -/
inductive ConvergenceError where
  /-- The time ran out first. -/
  | didNotConverge (service : String) (timeout : Duration)
  /-- The orchestrator rolled the update back. -/
  | rollbackCompleted (service : String) (timeout : Duration) (message : String)
  /-- The orchestrator paused the update. -/
  | updatePaused (service : String) (timeout : Duration) (message : String)
  /-- The orchestrator paused the rollback. -/
  | rollbackPaused (service : String) (timeout : Duration) (message : String)
  /-- The service gives no number of replicas. -/
  | noReplicaCount (service : String)
  /-- A call failed. -/
  | cluster (service : String) (timeout : Duration) (source : ClusterError)
  /-- The caller cancelled the wait. -/
  | cancelled (service : String) (timeout : Duration)
  /-- The wait failed, and then the removal of the service did. -/
  | teardownFailed (primary : ConvergenceError) (teardown : ClusterError)
  /-- The configuration cannot drive a wait. -/
  | invalidConfig (fault : ConfigFault)
  /-- The configuration could not be obtained. -/
  | setting (error : SettingError)
  deriving DecidableEq

namespace ConvergenceError

/-- The wording of an error. -/
def message : ConvergenceError → String
  | .didNotConverge service timeout =>
    "service with ID (" ++ service ++ ") did not converge after " ++ timeout.write
  | .rollbackCompleted _ _ message => "service rollback completed: " ++ message
  | .updatePaused _ _ message => "service update paused: " ++ message
  | .rollbackPaused _ _ message => "service rollback paused: " ++ message
  | .noReplicaCount service => "service with ID (" ++ service ++ ") has no replica count"
  | .cluster service _ source =>
    "querying service with ID (" ++ service ++ ") failed: " ++ source.message
  | .cancelled service _ => "waiting for service with ID (" ++ service ++ ") was cancelled"
  | .teardownFailed primary teardown =>
    primary.message ++ " (removing the service afterwards also failed: " ++ teardown.message ++ ")"
  | .invalidConfig fault => "invalid converge configuration: " ++ fault.message
  | .setting error => "core error: " ++ error.message

/-- The first failure, behind a teardown that failed too. -/
def primary : ConvergenceError → ConvergenceError
  | .teardownFailed first _ => first.primary
  | error => error

/-- The service an error is about. -/
def service? : ConvergenceError → Option String
  | .didNotConverge service _ => some service
  | .rollbackCompleted service _ _ => some service
  | .updatePaused service _ _ => some service
  | .rollbackPaused service _ _ => some service
  | .noReplicaCount service => some service
  | .cluster service _ _ => some service
  | .cancelled service _ => some service
  | .teardownFailed first _ => first.service?
  | .invalidConfig _ => none
  | .setting _ => none

/-- The timeout of the wait that failed. -/
def timeout? : ConvergenceError → Option Duration
  | .didNotConverge _ timeout => some timeout
  | .rollbackCompleted _ timeout _ => some timeout
  | .updatePaused _ timeout _ => some timeout
  | .rollbackPaused _ timeout _ => some timeout
  | .noReplicaCount _ => none
  | .cluster _ timeout _ => some timeout
  | .cancelled _ timeout => some timeout
  | .teardownFailed first _ => first.timeout?
  | .invalidConfig _ => none
  | .setting _ => none

/-- Whether the wait ran out of time. -/
def isTimeout (error : ConvergenceError) : Bool :=
  match error.primary with
  | .didNotConverge _ _ => true
  | _ => false

/-- Whether waiting longer cannot help. -/
def isPermanent (error : ConvergenceError) : Bool :=
  match error.primary with
  | .rollbackCompleted _ _ _ => true
  | .updatePaused _ _ _ => true
  | .rollbackPaused _ _ _ => true
  | .noReplicaCount _ => true
  | _ => false

/-- Whether the caller cancelled the wait. -/
def isCancelled (error : ConvergenceError) : Bool :=
  match error.primary with
  | .cancelled _ _ => true
  | _ => false

/-- The wordings of the failures that an error wraps, from the outermost one inwards. -/
def causes : ConvergenceError → List String
  | .cluster _ _ source => source.message :: source.causes
  | .teardownFailed first _ => first.message :: first.causes
  | .setting error => [error.message]
  | _ => []

/-- The wordings of an error and of all that it wraps. -/
def chain (error : ConvergenceError) : String :=
  ": ".intercalate (error.message :: error.causes)

end ConvergenceError

end ReplicaWatch
