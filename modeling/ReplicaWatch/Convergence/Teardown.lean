import ReplicaWatch.Convergence.Clock

/-! # Tearing a service down

A service's containers vanish from its listing once the service is removed, so they are
collected first. After the removal each of them has its grace period to exit before it
is removed by force. What is already gone counts as removed by someone else.
-/

namespace ReplicaWatch

/-- What a teardown did. -/
structure TeardownReport where
  /-- Not so when the service was already gone. -/
  serviceRemoved : Bool
  /-- The containers that were removed by force. -/
  containersRemoved : List String
  deriving DecidableEq

namespace Teardown

/-- Nothing was there to be removed. -/
def nothing : TeardownReport := ⟨false, []⟩

/-- What a teardown asks for. -/
inductive Move where
  | call (request : Call)
  /-- To wait until a container is gone, for some length of time at most. -/
  | grace (container : String) (period : Duration)
  deriving DecidableEq

/-- What a move is answered. How a grace wait ended does not matter. -/
abbrev Move.Answer : Move → Type
  | .call request => request.Answer
  | .grace _ _ => Unit

/-- The distinct containers of the tasks that have not shut down, in order. -/
def liveContainers (tasks : List Task) : List String :=
  ((tasks.filter fun task => !task.observed.is .shutdown).filterMap Task.container?).eraseDups

/-- Lets each container exit, and then removes it. -/
def reap (grace : Duration) :
    List String → TeardownReport → Dialogue Move Move.Answer (Except ClusterError TeardownReport)
  | [], report => .finish (.ok report)
  | container :: rest, report =>
    .ask (.grace container grace) fun _ =>
      .ask (.call (.removeContainer container .forced)) fun
        | .ok () =>
          reap grace rest
            { report with containersRemoved := report.containersRemoved ++ [container] }
        | .error error =>
          if error.isAlreadyGone then reap grace rest report else .finish (.error error)

/-- Removes the service, and then reaps its containers. -/
def removal (id : String) (grace : Duration) (containers : List String) :
    Dialogue Move Move.Answer (Except ClusterError TeardownReport) :=
  .ask (.call (.removeService id)) fun
    | .ok () => reap grace containers ⟨true, []⟩
    | .error error =>
      if error.isAlreadyGone then reap grace containers ⟨false, []⟩ else .finish (.error error)

/-- Removes the service with some id and reaps its containers. -/
def dialogue (id : String) : Dialogue Move Move.Answer (Except ClusterError TeardownReport) :=
  .ask (.call (.inspectService id)) fun
    | .error error => .finish (if error.isAlreadyGone then .ok nothing else .error error)
    | .ok service =>
      match service.gracePeriod? with
      | none => removal id .zero []
      | some grace =>
        .ask (.call (.listTasks (.all id))) fun
          | .error error => .finish (.error error)
          | .ok tasks => removal id grace (liveContainers tasks)

variable {σ α : Type}

/-- Makes the moves of a dialogue. A grace wait ends early when the token fires, and is
skipped once it has fired. There is no result if some call is never answered. -/
def play (client : Client σ) (token : Token) :
    Dialogue Move Move.Answer α → World σ → Option α × World σ
  | .finish result, w => (some result, w)
  | .ask (.call request) next, w =>
    match w.call client request with
    | (some answer, w) => play client token (next answer) w
    | (none, w) => (none, w)
  | .ask (.grace container period) next, w =>
    play client token (next ())
      (w.race client (w.now + period.ticks) token (.waitContainerRemoved container)).2

/-- Tears a service down. -/
def run (client : Client σ) (token : Token) (id : String) (w : World σ) :
    Option (Except ClusterError TeardownReport) × World σ :=
  play client token (dialogue id) w

end Teardown

end ReplicaWatch
