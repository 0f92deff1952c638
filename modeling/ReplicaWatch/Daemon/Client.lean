import ReplicaWatch.Convergence.Clock
import ReplicaWatch.Daemon.Payload
import ReplicaWatch.Daemon.Request
import ReplicaWatch.Json.Entries
import ReplicaWatch.Json.Reading

/-! # The daemon as a client

What a reply of the daemon means for the call whose request it replies to, and the client
that makes each call by one exchange with the daemon.
-/

namespace ReplicaWatch

/-- A reply of the daemon. -/
structure Reply where
  status : Nat
  body : String
  deriving DecidableEq

namespace Reply

/-- Reads a recorded reply: its status and its body. -/
def ofJson? (value : Json) : Option Reply := do
  let entries ← Json.entries? (.exact ["status", "body"]) value
  let status ← Json.default? entries "status" 200 (Json.natural? 1000)
  let body ← Json.default? entries "body" "" Json.string?
  return { status, body }

/-- Whether a reply reports success. -/
def isSuccess (reply : Reply) : Bool := decide (200 ≤ reply.status) && decide (reply.status < 300)

/-- The failure that a reply reports: its message is that of the body, or the body itself
when it holds none. -/
def failure (reply : Reply) : ClusterError :=
  .ofStatus reply.status
    (Text.trim (((Json.read? reply.body).bind Payload.refusal?).getD reply.body))

/-- Reads the body of a reply. -/
def contents {α : Type} (reply : Reply) (read : Json → Option α) : Except ClusterError α :=
  match (Json.read? reply.body).bind read with
  | some a => .ok a
  | none => .error .json

/-- What a successful reply answers to a call. -/
def success (reply : Reply) : (call : Call) → call.Answer
  | .listTasks _ => reply.contents (Payload.list? Payload.task?)
  | .listNodes => reply.contents (Payload.list? Payload.node?)
  | .inspectService _ => reply.contents Payload.service?
  | .removeService _ => .ok ()
  | .removeContainer _ _ => .ok ()
  | .waitContainerRemoved container =>
    match reply.contents Payload.exit? with
    | .error error => .error error
    | .ok (code, none) => .ok code
    | .ok (code, some message) =>
      if message.isEmpty then .ok code else .error (.containerWait container message)

/-- What a reply answers to a call. -/
def answer (reply : Reply) (call : Call) : call.Answer :=
  if reply.isSuccess then reply.success call else .error reply.failure

end Reply

/-- Carries requests to a daemon and brings replies back. -/
structure Transport (σ : Type) where
  /-- The reply to a request; `none` if the daemon cannot be reached. -/
  exchange : Request → σ → Option Reply × σ

namespace Transport

variable {σ : Type}

/-- A transport that reaches nobody. -/
def unreachable : Transport Unit := ⟨fun _ _ => (none, ())⟩

/-- A transport that plays recorded replies, and reaches nobody when none is left. -/
def recorded : Transport (List Reply) := ⟨fun _ replies => (replies.head?, replies.tail)⟩

/-- The client that makes calls by exchanges with the daemon at some URL. -/
def client (transport : Transport σ) (base : Url)
    (toAscii : Url.DomainReader := Url.Domain.canonical?) : Client σ where
  travel _ state := (0, state)
  answer call state :=
    match Request.ofCall base call toAscii with
    | .error fault => (some (.error (.url fault)), state)
    | .ok request =>
      match transport.exchange request state with
      | (some reply, state) => (some (reply.answer call), state)
      | (none, state) => (some (.error .http), state)

end Transport

end ReplicaWatch
