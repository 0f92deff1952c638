import ReplicaWatch.Convergence.Error
import ReplicaWatch.Duration.Reading
import ReplicaWatch.Settings
import ReplicaWatch.Text.Percent

/-! # Settings in the environment

Variables of the environment lie on top of the stored settings, field by field. A variable
whose value is no Unicode text counts as unset, and so does a blank one
(`Environment.given?`), with one exception: a blank bound on requests is read like any
other and is no duration.
-/

namespace ReplicaWatch

/-- The variables that are read. -/
inductive Variable where
  | timeout
  | delay
  | minInterval
  | maxInterval
  | host
  | apiVersion
  | requestTimeout
  | settingsFile
  deriving DecidableEq

/-- The name of a variable. -/
def Variable.name : Variable → String
  | .timeout => "SWARMWAIT_TIMEOUT"
  | .delay => "SWARMWAIT_DELAY"
  | .minInterval => "SWARMWAIT_MIN_POLL_INTERVAL"
  | .maxInterval => "SWARMWAIT_MAX_POLL_INTERVAL"
  | .host => "DOCKER_HOST"
  | .apiVersion => "DOCKER_API_VERSION"
  | .requestTimeout => "SWARMWAIT_REQUEST_TIMEOUT"
  | .settingsFile => "SWARMWAIT_CONFIG"

/-- All variables that are read. -/
def Variable.all : List Variable :=
  [.timeout, .delay, .minInterval, .maxInterval, .host, .apiVersion, .requestTimeout,
    .settingsFile]

/-- The bytes that each variable is set to, if it is set. -/
structure Environment where
  bytes? : Variable → Option (List UInt8)

namespace Environment

/-- No variable is set. -/
def empty : Environment := ⟨fun _ => none⟩

/-- The environment in which one variable is not set. -/
def without (environment : Environment) (unset : Variable) : Environment :=
  ⟨fun name => if name = unset then none else environment.bytes? name⟩

/-- The text a variable is set to. -/
def text? (environment : Environment) (name : Variable) : Option String :=
  (environment.bytes? name).bind Text.ofUtf8?

/-- The text a variable is set to, unless it is blank. -/
def given? (environment : Environment) (name : Variable) : Option String :=
  (environment.text? name).filter fun text => !Text.isBlankText text

end Environment

/-- Reads a duration that is given as a text; without a text there is none. -/
def Duration.given? : Option String → Except SettingError (Option Duration)
  | none => .ok none
  | some text =>
    match Duration.read text with
    | .ok d => .ok (some d)
    | .error fault => .error (.invalidDuration text fault.message)

namespace ConvergenceConfig

/-- A configuration with the variables of the environment on top. They are read one after
another, and the first malformed one is reported. -/
def underEnvironment (config : ConvergenceConfig) (environment : Environment) :
    Except SettingError ConvergenceConfig := do
  let timeout ← Duration.given? (environment.given? .timeout)
  let delay ← Duration.given? (environment.given? .delay)
  let minInterval ← Duration.given? (environment.given? .minInterval)
  let maxInterval ← Duration.given? (environment.given? .maxInterval)
  return {
    timeout := timeout.getD config.timeout
    delay := delay.getD config.delay
    minInterval := minInterval.getD config.minInterval
    maxInterval := maxInterval.getD config.maxInterval }

end ConvergenceConfig

namespace DaemonConfig

/-- A configuration with the variables of the environment on top. -/
def underEnvironment (config : DaemonConfig) (environment : Environment) :
    Except SettingError DaemonConfig := do
  let requestTimeout ← Duration.given? (environment.text? .requestTimeout)
  return {
    host := (environment.given? .host).getD config.host
    apiVersion := environment.given? .apiVersion <|> config.apiVersion
    requestTimeout := requestTimeout.getD config.requestTimeout }

end DaemonConfig

end ReplicaWatch
