import ReplicaWatch.Cluster.Call
import ReplicaWatch.Json.Writing
import ReplicaWatch.Text.Form
import ReplicaWatch.Url.Domain
import ReplicaWatch.Url.Reading

/-! # Requests to the daemon

Each call is one request, whose URL is the call's endpoint joined to the base URL, with
the call's parameters as form-encoded values behind the query.
-/

namespace ReplicaWatch

/-- The methods of requests. -/
inductive Method where
  | get
  | post
  | delete
  deriving DecidableEq

/-- The name of a method. -/
def Method.name : Method → String
  | .get => "GET"
  | .post => "POST"
  | .delete => "DELETE"

/-- A request. -/
structure Request where
  method : Method
  url : Url
  deriving DecidableEq

namespace Request

/-- The first line of a request, without the protocol's version. -/
def line (request : Request) : String := request.method.name ++ " " ++ request.url.requestTarget

/-- The parameter that chooses which tasks are listed. -/
def filters (filter : TaskFilter) : Json :=
  .record
    ((match filter.desired with
        | none => []
        | some state => [("desired-state", .array [.string state.name])]) ++
      [("service", .array [.string filter.service])])

/-- The method of a call. -/
def methodOf : Call → Method
  | .listTasks _ => .get
  | .listNodes => .get
  | .inspectService _ => .get
  | .removeService _ => .delete
  | .removeContainer _ _ => .delete
  | .waitContainerRemoved _ => .post

/-- The endpoint of a call, relative to the base URL. -/
def endpointOf : Call → String
  | .listTasks _ => "tasks"
  | .listNodes => "nodes"
  | .inspectService id => "services/" ++ id
  | .removeService id => "services/" ++ id
  | .removeContainer id _ => "containers/" ++ id
  | .waitContainerRemoved id => "containers/" ++ id ++ "/wait"

/-- A truth value as a parameter. -/
def truth (b : Bool) : String := if b then "true" else "false"

/-- The parameters of a call. -/
def parametersOf : Call → List (String × String)
  | .listTasks filter => [("filters", (filters filter).write)]
  | .removeContainer _ options => [("v", truth options.volumes), ("force", truth options.force)]
  | .waitContainerRemoved _ => [("condition", "removed")]
  | _ => []

/-- The request of a call. -/
def ofCall (base : Url) (call : Call) (toAscii : Url.DomainReader := Url.Domain.canonical?) :
    Except Url.Fault Request :=
  match base.join toAscii (endpointOf call).toList with
  | .error fault => .error fault
  | .ok url =>
    let parameters := parametersOf call
    .ok {
      method := methodOf call
      url := if parameters.isEmpty then url else url.addQuery (Text.formEncode parameters) }

end Request

end ReplicaWatch
