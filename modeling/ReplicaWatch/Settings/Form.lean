import ReplicaWatch.Duration.Reading
import ReplicaWatch.Json.Entries
import ReplicaWatch.Settings
import ReplicaWatch.Toml.Reading

/-! # The stored form of settings

Settings are stored as a table with one table for each of their parts, and the lengths of
time in them as texts. A field that is left out has its usual value, and one that the
settings do not know is passed over. The fields are read in the order in which they stand,
and the first fault is the one that is reported.
-/

namespace ReplicaWatch

open Json (entries? Layout)

namespace Duration

/-- Reads a length of time that is stored as a text. -/
def ofSetting (value : Json) : Except DocumentFault Duration :=
  match value.string? with
  | none => .error .malformed
  | some text =>
    match Duration.read text with
    | .ok d => .ok d
    | .error fault => .error (.malformedDuration text fault.message)

end Duration

/-- Reads a text. -/
def Json.textSetting (value : Json) : Except DocumentFault String :=
  match value.string? with
  | none => .error .malformed
  | some content => .ok content

/-- Reads the entries of a table onto the usual values, one after another. In a list of the
fields in order any number of them may be left out at the end; `surplus` says whether a
list may also be too long. -/
def Json.overlay {α : Type} (names : List String) (surplus : Bool)
    (field : α → String → Json → Except DocumentFault α) (usual : α) (value : Json) :
    Except DocumentFault α :=
  match entries? ⟨names, 0, surplus⟩ value with
  | none => .error .malformed
  | some entries => entries.foldlM (fun record entry => field record entry.1 entry.2) usual

namespace ConvergenceConfig

/-- The names of the fields. -/
def fieldNames : List String := ["timeout", "delay", "min_poll_interval", "max_poll_interval"]

/-- The stored form. -/
def toJson (config : ConvergenceConfig) : Json :=
  .record [
    ("timeout", .string config.timeout.write),
    ("delay", .string config.delay.write),
    ("min_poll_interval", .string config.minInterval.write),
    ("max_poll_interval", .string config.maxInterval.write)]

/-- Sets one field to its stored value. -/
def setField (config : ConvergenceConfig) (name : String) (value : Json) :
    Except DocumentFault ConvergenceConfig :=
  match name with
  | "timeout" => (Duration.ofSetting value).map fun timeout => { config with timeout }
  | "delay" => (Duration.ofSetting value).map fun delay => { config with delay }
  | "min_poll_interval" =>
    (Duration.ofSetting value).map fun minInterval => { config with minInterval }
  | "max_poll_interval" =>
    (Duration.ofSetting value).map fun maxInterval => { config with maxInterval }
  | _ => .ok config

/-- Reads the stored form. -/
def ofJson (surplus : Bool) (value : Json) : Except DocumentFault ConvergenceConfig :=
  value.overlay fieldNames surplus setField standard

end ConvergenceConfig

namespace DaemonConfig

/-- The names of the fields. -/
def fieldNames : List String := ["host", "api_version", "request_timeout"]

/-- The stored form. -/
def toJson (config : DaemonConfig) : Json :=
  .record [
    ("host", .string config.host),
    ("api_version", .nullable .string config.apiVersion),
    ("request_timeout", .string config.requestTimeout.write)]

/-- Sets one field to its stored value. -/
def setField (config : DaemonConfig) (name : String) (value : Json) :
    Except DocumentFault DaemonConfig :=
  match name with
  | "host" => value.textSetting.map fun host => { config with host }
  | "api_version" =>
    if value.isNull then .ok { config with apiVersion := none }
    else value.textSetting.map fun version => { config with apiVersion := some version }
  | "request_timeout" =>
    (Duration.ofSetting value).map fun requestTimeout => { config with requestTimeout }
  | _ => .ok config

/-- Reads the stored form. -/
def ofJson (surplus : Bool) (value : Json) : Except DocumentFault DaemonConfig :=
  value.overlay fieldNames surplus setField standard

end DaemonConfig

namespace Settings

/-- The names of the parts. -/
def fieldNames : List String := ["converge", "docker"]

/-- The stored form. -/
def toJson (settings : Settings) : Json :=
  .record [("converge", settings.convergence.toJson), ("docker", settings.daemon.toJson)]

/-- Sets one part to its stored value. -/
def setField (surplus : Bool) (settings : Settings) (name : String) (value : Json) :
    Except DocumentFault Settings :=
  match name with
  | "converge" =>
    (ConvergenceConfig.ofJson surplus value).map fun convergence => { settings with convergence }
  | "docker" => (DaemonConfig.ofJson surplus value).map fun daemon => { settings with daemon }
  | _ => .ok settings

/-- Reads the stored form. -/
def ofJson (surplus : Bool) (value : Json) : Except DocumentFault Settings :=
  value.overlay fieldNames surplus (setField surplus) standard

/-- Reads a document of settings. -/
def ofToml (text : String) : Except DocumentFault Settings :=
  match Toml.read? text with
  | none => .error .malformed
  | some document => ofJson true document

end Settings

/-- Reads a document whose fields are those of a configuration. -/
def ConvergenceConfig.ofToml (text : String) : Except DocumentFault ConvergenceConfig :=
  match Toml.read? text with
  | none => .error .malformed
  | some document => ofJson true document

end ReplicaWatch
