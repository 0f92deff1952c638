import ReplicaWatch.Convergence.Poll

/-! # Conversations along a dialogue

A dialogue fixes what is asked next and not what is answered. A *conversation* along it is
one way to its end: the questions that were asked, each with the answer that was given, and
the result (`Dialogue.Answered`). The conversations along a poll are listed once
(`Session.poll_ends`); whatever is said of single polls elsewhere goes back to that list.
-/

namespace ReplicaWatch

namespace Dialogue

variable {Question : Type} {Answer : Question → Type} {α : Type}

/-- A question with the answer that it got. -/
abbrev Exchange (Question : Type) (Answer : Question → Type) : Type :=
  (question : Question) × Answer question

/-- The exchanges that lead from the start of a dialogue to a result. -/
inductive Answered :
    Dialogue Question Answer α → List (Exchange Question Answer) → α → Prop where
  | finish (result : α) : Answered (.finish result) [] result
  | ask {question : Question} {next : Answer question → Dialogue Question Answer α}
      {exchanges : List (Exchange Question Answer)} {result : α} (answer : Answer question)
      (rest : Answered (next answer) exchanges result) :
      Answered (.ask question next) (⟨question, answer⟩ :: exchanges) result

/-- A table of answers leads to a result along some conversation. -/
theorem answered_resultUnder (answers : (question : Question) → Answer question)
    (dialogue : Dialogue Question Answer α) :
    ∃ exchanges, dialogue.Answered exchanges (dialogue.resultUnder answers) := by
  induction dialogue with
  | finish result => exact ⟨[], .finish result⟩
  | ask question next ih =>
    obtain ⟨exchanges, answered⟩ := ih (answers question)
    exact ⟨_, .ask (answers question) answered⟩

/-- Only allowed questions are asked, however they are answered. -/
def Asks (allowed : Question → Prop) : Dialogue Question Answer α → Prop
  | .finish _ => True
  | .ask question next => allowed question ∧ ∀ answer, (next answer).Asks allowed

/-- What is asked may be described more weakly. -/
theorem Asks.imp {dialogue : Dialogue Question Answer α} {allowed other : Question → Prop}
    (asks : dialogue.Asks allowed) (weaker : ∀ question, allowed question → other question) :
    dialogue.Asks other := by
  induction dialogue with
  | finish result => trivial
  | ask question next ih => exact ⟨weaker question asks.1, fun answer => ih answer (asks.2 answer)⟩

theorem asks_any (dialogue : Dialogue Question Answer α) : dialogue.Asks fun _ => True := by
  induction dialogue with
  | finish result => trivial
  | ask question next ih => exact ⟨trivial, ih⟩

end Dialogue

/-- A call and what it was answered. -/
abbrev Call.Exchange : Type := Dialogue.Exchange Call Call.Answer

/-- The calls that only look at a service: an inspection of it, a listing of those of its
tasks that are wanted running, and a listing of the nodes. -/
inductive Call.LooksAt (id : String) : Call → Prop where
  | service : LooksAt id (.inspectService id)
  | tasks : LooksAt id (.listTasks (.running id))
  | nodes : LooksAt id .listNodes

/-- The kinds of calls that only read. -/
def Operation.isRead : Operation → Bool
  | .listTasks => true
  | .listNodes => true
  | .inspectService => true
  | .removeService => false
  | .removeContainer => false
  | .waitContainerRemoved => false

/-- A call that looks at a service changes nothing. -/
theorem Call.LooksAt.isRead {id : String} {call : Call} (looks : Call.LooksAt id call) :
    call.operation.isRead = true := by
  cases looks <;> rfl

/-- A count settles on convergence when the replicas are there and nothing is rolled back. -/
theorem Outcome.settle_eq_converged_iff {converged rollback : Bool} {message : String} :
    settle converged rollback message = .converged ↔ converged = true ∧ rollback = false := by
  cases converged <;> cases rollback <;> simp [settle]

/-- It stays open as long as they are not there. -/
theorem Outcome.settle_eq_pending_iff {converged rollback : Bool} {message : String} :
    settle converged rollback message = .pending ↔ converged = false := by
  cases converged <;> cases rollback <;> simp [settle]

namespace Session

variable {mode : ConvergenceMode} {id : String} {timeout : Duration} {session : Session}

/-- The conversations along a poll. -/
inductive PollEnds (mode : ConvergenceMode) (id : String) (timeout : Duration)
    (session : Session) :
    List Call.Exchange → Except ConvergenceError Observation × Session → Prop where
  | uninspected (source : ClusterError) :
      PollEnds mode id timeout session [⟨.inspectService id, .error source⟩]
        (.error (.cluster id timeout source), session)
  | completed {service : Service} (verdict : mode.verdict service = .completed) :
      PollEnds mode id timeout session [⟨.inspectService id, .ok service⟩]
        (.ok ⟨.converged, none⟩, session)
  | failed {service : Service} {failure : RolloutFailure}
      (verdict : mode.verdict service = .failed failure) :
      PollEnds mode id timeout session [⟨.inspectService id, .ok service⟩]
        (.ok ⟨.failed failure, none⟩, session)
  | tasksUnlisted {service : Service} {rollback : Bool} (source : ClusterError)
      (verdict : mode.verdict service = .keepCounting rollback) :
      PollEnds mode id timeout session
        [⟨.inspectService id, .ok service⟩, ⟨.listTasks (.running id), .error source⟩]
        (.error (.cluster id timeout source), session)
  | nodesUnlisted {service : Service} {rollback : Bool} (tasks : List Task)
      (source : ClusterError) (verdict : mode.verdict service = .keepCounting rollback) :
      PollEnds mode id timeout session
        [⟨.inspectService id, .ok service⟩, ⟨.listTasks (.running id), .ok tasks⟩,
          ⟨.listNodes, .error source⟩]
        (.error (.cluster id timeout source), session)
  | counted {service : Service} {rollback : Bool} (tasks : List Task) (nodes : List Node)
      (verdict : mode.verdict service = .keepCounting rollback) :
      PollEnds mode id timeout session
        [⟨.inspectService id, .ok service⟩, ⟨.listTasks (.running id), .ok tasks⟩,
          ⟨.listNodes, .ok nodes⟩]
        (session.count ⟨service, tasks, nodes⟩ rollback)

/-- **A poll ends** in one of these ways, each with the answers that it got. -/
theorem poll_ends {exchanges : List Call.Exchange}
    {result : Except ConvergenceError Observation × Session}
    (answered : (session.poll mode id timeout).Answered exchanges result) :
    PollEnds mode id timeout session exchanges result := by
  unfold poll at answered
  cases answered with
  | ask inspected rest =>
    cases inspected with
    | error source => cases rest; exact .uninspected source
    | ok service =>
      dsimp only at rest
      split at rest
      · next verdict => cases rest; exact .completed verdict
      · next verdict => cases rest; exact .failed verdict
      · next verdict =>
        cases rest with
        | ask listed rest =>
          cases listed with
          | error source => cases rest; exact .tasksUnlisted source verdict
          | ok tasks =>
            cases rest with
            | ask listed rest =>
              cases listed with
              | error source => cases rest; exact .nodesUnlisted tasks source verdict
              | ok nodes => cases rest; exact .counted tasks nodes verdict

/-- A count that is made reports how many slots are satisfied, and how many replicas are wanted. -/
theorem count_ok {snapshot : Snapshot} {rollback : Bool} {observation : Observation}
    {after : Session} (counted : session.count snapshot rollback = (.ok observation, after)) :
    ∃ report, snapshot.service.replicas? = some report.desired ∧
      report.running = (SlotMap.resolve snapshot.tasks (.ofNodes snapshot.nodes)).countRunning ∧
      observation =
        ⟨.settle report.isConverged rollback snapshot.service.updateMessage, some report⟩ := by
  cases wanted : snapshot.service.replicas? with
  | none => simp [count, observe, wanted] at counted
  | some replicas =>
    simp only [count, observe, wanted] at counted
    cases counted
    exact ⟨_, rfl, rfl, rfl⟩

/-- A count fails only for want of a number of replicas. -/
theorem count_error {snapshot : Snapshot} {rollback : Bool} {error : ConvergenceError}
    {after : Session} (counted : session.count snapshot rollback = (.error error, after)) :
    error = .noReplicaCount session.service := by
  cases wanted : snapshot.service.replicas? with
  | none =>
    simp only [count, observe, wanted] at counted
    cases counted
    rfl
  | some replicas => simp [count, observe, wanted] at counted

/-- Counting leaves the session at its service. -/
theorem service_count (session : Session) (snapshot : Snapshot) (rollback : Bool) :
    (session.count snapshot rollback).2.service = session.service := by
  unfold count observe
  cases snapshot.service.replicas? <;> rfl

/-- A poll leaves the session with its service. -/
theorem service_of_ends {result : Except ConvergenceError Observation × Session}
    {exchanges : List Call.Exchange}
    (ends : PollEnds mode id timeout session exchanges result) :
    result.2.service = session.service := by
  cases ends with
  | counted tasks nodes => exact session.service_count _ _
  | _ => rfl

/-- A poll only looks at its service. -/
theorem poll_asks (mode : ConvergenceMode) (id : String) (timeout : Duration)
    (session : Session) : (session.poll mode id timeout).Asks (Call.LooksAt id) := by
  refine ⟨.service, ?_⟩
  intro inspected
  cases inspected with
  | error source => trivial
  | ok service =>
    dsimp only
    split
    · trivial
    · trivial
    · refine ⟨.tasks, ?_⟩
      intro tasks
      cases tasks with
      | error source => trivial
      | ok tasks =>
        refine ⟨.nodes, ?_⟩
        intro nodes
        cases nodes <;> trivial

/-- A poll begins with an inspection and makes no other. -/
theorem poll_inspects_once (mode : ConvergenceMode) (id : String) (timeout : Duration)
    (session : Session) :
    ∃ next, session.poll mode id timeout = .ask (.inspectService id) next ∧
      ∀ inspected, (next inspected).Asks fun call => call.operation ≠ .inspectService := by
  refine ⟨_, rfl, ?_⟩
  intro inspected
  cases inspected with
  | error source => trivial
  | ok service =>
    dsimp only
    split
    · trivial
    · trivial
    · refine ⟨nofun, ?_⟩
      intro tasks
      cases tasks with
      | error source => trivial
      | ok tasks =>
        refine ⟨nofun, ?_⟩
        intro nodes
        cases nodes <;> trivial

end Session

end ReplicaWatch
