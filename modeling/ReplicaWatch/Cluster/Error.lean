import ReplicaWatch.Text.Blank
import ReplicaWatch.Url.Fault

/-! # Failures of the cluster

What a call of the orchestrator's interface can fail with, the wording of each
failure, and which failures mean that the object is already gone: it does not exist,
or someone else is removing it.
-/

namespace ReplicaWatch

/-- What was wrong with a document of settings. -/
inductive DocumentFault where
  /-- A value that should be a duration and is not one. -/
  | malformedDuration (input reason : String)
  /-- Anything else: the syntax, a repeated key, a value of the wrong type. -/
  | malformed
  deriving DecidableEq

/-- Failures to obtain a setting. -/
inductive SettingError where
  | fileUnreadable (path reason : String)
  | invalidDuration (input reason : String)
  | document (fault : DocumentFault)
  deriving DecidableEq

/-- The wording of a malformed duration. -/
def malformedDurationMessage (input reason : String) : String :=
  s!"invalid duration '{input}': {reason}"

/-- The wording of a failure to obtain a setting. -/
def SettingError.message : SettingError → String
  | .fileUnreadable path reason => s!"failed to read file '{path}': {reason}"
  | .invalidDuration input reason => malformedDurationMessage input reason
  | .document (.malformedDuration input reason) =>
    "TOML parse error: " ++ malformedDurationMessage input reason
  | .document .malformed => "TOML parse error: malformed document"

/-- A failure of a call. -/
inductive ClusterError where
  /-- The object does not exist. -/
  | notFound (message : String)
  /-- The call conflicts with the object's present state. -/
  | conflict (message : String)
  /-- Any other answer that is no success, with its status. -/
  | api (status : Nat) (message : String)
  /-- The answer to a wait for a container reports an error. -/
  | containerWait (container message : String)
  /-- The answer cannot be interpreted. -/
  | invalidResponse (reason : String)
  /-- The address of the daemon is not usable. -/
  | config (reason : String)
  /-- The address of the daemon is no URL. -/
  | url (fault : Url.Fault)
  /-- The daemon could not be reached. -/
  | http
  /-- The answer's body is not the JSON that was expected. -/
  | json
  /-- A setting of the client could not be obtained. -/
  | setting (error : SettingError)
  deriving DecidableEq

namespace ClusterError

/-- The failure that an answer's status means. -/
def ofStatus (status : Nat) (message : String) : ClusterError :=
  if status = 404 then .notFound message
  else if status = 409 then .conflict message
  else .api status message

/-- The wording of a failure. -/
def message : ClusterError → String
  | .notFound message => s!"not found: {message}"
  | .conflict message => s!"conflict: {message}"
  | .api status message => s!"orchestrator returned {status}: {message}"
  | .containerWait container message => s!"waiting for container '{container}' failed: {message}"
  | .invalidResponse reason => s!"invalid response: {reason}"
  | .config reason => s!"configuration error: {reason}"
  | .url fault => "URL parse error: " ++ fault.message
  | .http => "HTTP error"
  | .json => "JSON error"
  | .setting error => "core error: " ++ error.message

/-- The wordings of the failures that a failure wraps. -/
def causes : ClusterError → List String
  | .setting error => [error.message]
  | .url fault => [fault.message]
  | _ => []

/-- The wordings of a failure and of all that it wraps. -/
def chain (error : ClusterError) : String := ": ".intercalate (error.message :: error.causes)

/-- The phrases by which an orchestrator tells that an object is gone already, or that
its removal is under way. -/
def goneMessages : List String :=
  ["no such container", "no such service", "is already in progress"]

/-- Whether a message holds one of the phrases, in either case. -/
def saysGone (message : String) : Bool :=
  let lowered := message.toList.map Char.toLower
  goneMessages.any fun phrase => Text.occursIn phrase.toList lowered

/-- Whether a failure means that the object is already removed or being removed. -/
def isAlreadyGone : ClusterError → Bool
  | .notFound _ => true
  | .conflict message => saysGone message
  | .api _ message => saysGone message
  | .containerWait _ message => saysGone message
  | _ => false

end ClusterError

end ReplicaWatch
