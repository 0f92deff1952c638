import ReplicaWatch.Cluster.Error
import ReplicaWatch.Duration
import ReplicaWatch.Url.Domain
import ReplicaWatch.Url.Reading

/-! # Where the daemon is

The settings of a client of the orchestrator's daemon, and the base URL of its requests:
the address with its path closed by a slash, followed by a segment for the version of the
interface when one is pinned. Addresses of local sockets cannot be used.
-/

namespace ReplicaWatch

/-- How to reach the daemon. -/
structure DaemonConfig where
  /-- The address, which starts with `tcp://`, `http://` or `https://`. -/
  host : String
  /-- The version of the interface to use, such as `1.43`. -/
  apiVersion : Option String
  /-- Bound on each request but the wait for a container. -/
  requestTimeout : Duration
  deriving DecidableEq

namespace DaemonConfig

/-- The daemon on this machine. -/
def standard : DaemonConfig where
  host := "http://localhost:2375"
  apiVersion := none
  requestTimeout := .ofSeconds 30

/-- The daemon at some address, with all else as usual. -/
def forHost (host : String) : DaemonConfig := { standard with host }

/-- Reads an address; `tcp` is read as `http`. -/
def address (toAscii : Url.DomainReader) (host : String) : Except ClusterError Url :=
  let trimmed := Text.trim host
  let cs := trimmed.toList
  let parsed : Except Url.Fault Url → Except ClusterError Url := fun
    | .ok url => .ok url
    | .error fault => .error (.url fault)
  match Text.after? "tcp://" cs, Text.after? "http://" cs, Text.after? "https://" cs with
  | some rest, _, _ => parsed (Url.read toAscii "http" ('/' :: '/' :: rest))
  | none, some rest, _ => parsed (Url.read toAscii "http" ('/' :: '/' :: rest))
  | none, none, some rest => parsed (Url.read toAscii "https" ('/' :: '/' :: rest))
  | none, none, none =>
    if (Text.after? "unix://" cs).isSome || (Text.after? "npipe://" cs).isSome then
      .error (.config s!"'{trimmed}' is a local socket; expose the daemon over tcp to use it")
    else .error (.config s!"unsupported docker host '{trimmed}'")

/-- The version to pin, without blanks around it and without a `v` before it; `none` when
nothing is to be pinned. -/
def pinnedVersion? (config : DaemonConfig) : Option (List Char) :=
  match config.apiVersion with
  | none => none
  | some version =>
    let cs := Text.trimChars version.toList
    if cs.isEmpty then none else some (cs.dropWhile (· == 'v'))

/-- The URL that requests are relative to. -/
def baseUrl (config : DaemonConfig) (toAscii : Url.DomainReader := Url.Domain.canonical?) :
    Except ClusterError Url :=
  match address toAscii config.host with
  | .error error => .error error
  | .ok url =>
    let base : Url := { url with path := url.path.closed }
    match config.pinnedVersion? with
    | none => .ok base
    | some version =>
      match base.join toAscii ('v' :: version ++ ['/']) with
      | .ok url => .ok url
      | .error fault => .error (.url fault)

end DaemonConfig

end ReplicaWatch
