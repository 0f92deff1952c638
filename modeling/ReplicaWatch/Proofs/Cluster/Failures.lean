import Mathlib.Data.List.Basic
import Mathlib.Logic.Function.Basic
import ReplicaWatch.Proofs.Cluster.History

/-! # Queued failures

A failure that is queued for a kind of call answers the next call of that kind, in place of its
effect (`ScriptedCluster.Atomic`): the call takes the failure from the front of its own queue, and
is noted like any other. A call that finds its queue empty is answered as by a cluster for which
nothing was ever queued, and leaves every queue alone; if that answer is an error, all else is left
alone too, but that an inspection has moved on in the script. So, over a whole run, the errors that
were queued for a kind of call are those that were delivered to its calls, in order, and then those
that still wait (`ScriptedCluster.failures_delivered`).
-/

namespace ReplicaWatch

/-- The error that answered a call. -/
def Call.Entry.error? : Call.Entry → Option ClusterError
  | ⟨_, some (.error error)⟩ => some error
  | _ => none

namespace ScriptedCluster

namespace Event

/-- The failure that was queued for a kind of call. -/
def queued? (operation : Operation) : Event → Option ClusterError
  | .queued kind error => if kind = operation then some error else none
  | _ => none

/-- The error that answered a call of some kind for which a failure was queued. -/
def delivered? (operation : Operation) : Event → Option ClusterError
  | .called entry (some _) => if entry.1.operation = operation then entry.error? else none
  | _ => none

end Event

/-- The call that is made. -/
def Act.call? : Act → Option Call
  | .call made => some made
  | _ => none

/-- The call is answered with an error that it takes from the front of the queue for its kind. -/
def Delivers (cluster : ScriptedCluster) (call : Call) (error : ClusterError) : Prop :=
  (cluster.answer call).1 = some (.error error) ∧
    cluster.failures call.operation = error :: (cluster.answer call).2.failures call.operation

/-- The cluster with other failures queued. -/
def withFailures (cluster : ScriptedCluster) (failures : Operation → List ClusterError) :
    ScriptedCluster :=
  { cluster with failures }

/-- How a call deals with the failures that are queued. -/
structure Atomic (cluster : ScriptedCluster) (call : Call) : Prop where
  delivers_iff : (∃ error, cluster.Delivers call error) ↔ cluster.failures call.operation ≠ []
  /-- The failure is taken from its queue, and nothing else happens. -/
  delivered : ∀ error, cluster.Delivers call error →
    (cluster.answer call).2 =
      { cluster with
        journal := call :: cluster.journal
        failures := Function.update cluster.failures call.operation
          (cluster.failures call.operation).tail }
  /-- Without one, all is as if no failures were queued for any kind of call. -/
  own : cluster.failures call.operation = [] →
    cluster.answer call =
      (((cluster.withFailures fun _ => []).answer call).1,
        ((cluster.withFailures fun _ => []).answer call).2.withFailures cluster.failures)
  refused : cluster.failures call.operation = [] →
    ∀ error, (cluster.answer call).1 = some (.error error) →
      (cluster.answer call).2 =
        { cluster with
          journal := call :: cluster.journal
          inspections :=
            if call.operation = .inspectService then cluster.inspections + 1
            else cluster.inspections }

variable {cluster : ScriptedCluster} {call : Call} {error : ClusterError} {operation : Operation}

/-! ## One call -/

/-- Taking a failure leaves the queues of the other kinds of call alone. -/
theorem withoutFailure_failures (cluster : ScriptedCluster) (operation : Operation) :
    (cluster.withoutFailure operation).failures =
      Function.update cluster.failures operation (cluster.failures operation).tail := by
  funext other
  by_cases same : other = operation
  · subst same
    simp [withoutFailure]
  · simp [withoutFailure, same]

/-- A queued failure is the answer, and is all that is taken from the cluster. -/
theorem answer_of_queued {rest : List ClusterError}
    (queued : cluster.failures call.operation = error :: rest) :
    cluster.answer call =
      (some (.error error), (cluster.noting call).withoutFailure call.operation) := by
  unfold answer
  rw [queued]

/-- Without one, the call does what it does. -/
theorem answer_of_free (free : cluster.failures call.operation = []) :
    cluster.answer call = (cluster.noting call).perform call := by
  unfold answer
  rw [free]

/-- The effect of a call has nothing to do with what is queued. -/
theorem perform_withFailures (cluster : ScriptedCluster) (call : Call)
    (failures : Operation → List ClusterError) :
    (cluster.withFailures failures).perform call =
      ((cluster.perform call).1, (cluster.perform call).2.withFailures failures) := by
  cases call with
  | listTasks filter => rfl
  | listNodes => rfl
  | inspectService id =>
    have same : (cluster.withFailures failures).advanced.service? id =
        cluster.advanced.service? id := rfl
    simp only [advanced] at same
    simp only [perform, same]
    split <;> rfl
  | removeService id =>
    have known : (cluster.withFailures failures).knows id = cluster.knows id := rfl
    have removed : (cluster.withFailures failures).removedServices = cluster.removedServices := rfl
    simp only [perform, known, removed]
    split <;> rfl
  | removeContainer id options =>
    have same : (cluster.withFailures failures).container? id = cluster.container? id := rfl
    simp only [perform, same]
    split <;> rfl
  | waitContainerRemoved id =>
    have same : (cluster.withFailures failures).container? id = cluster.container? id := rfl
    simp only [perform, same]
    split <;> rfl

/-- A call that finds no failure queued takes none. -/
theorem failures_of_free (free : cluster.failures call.operation = []) :
    (cluster.answer call).2.failures = cluster.failures := by
  have ends := answer_ends cluster call
  generalize cluster.answer call = answered at ends ⊢
  cases ends with
  | failed queued => exact absurd (queued.symm.trans free) (List.cons_ne_nil _ _)
  | _ => rfl

/-- The failure that is delivered is the first of its queue. -/
theorem delivers_of_queued {rest : List ClusterError}
    (queued : cluster.failures call.operation = error :: rest) : cluster.Delivers call error := by
  refine ⟨by rw [answer_of_queued queued], ?_⟩
  rw [answer_of_queued queued, withoutFailure_failures, Function.update_self, noting, queued,
    List.tail_cons]

/-- **Every call is atomic.** It takes a failure and does nothing, or does what it does and takes
none. -/
theorem atomic (cluster : ScriptedCluster) (call : Call) : Atomic cluster call where
  delivers_iff := by
    constructor
    · rintro ⟨error, -, queued⟩
      rw [queued]
      exact List.cons_ne_nil _ _
    · intro waiting
      obtain ⟨error, rest, queued⟩ := List.exists_cons_of_ne_nil waiting
      exact ⟨error, delivers_of_queued queued⟩
  delivered error delivers := by
    have emptied := withoutFailure_failures (cluster.noting call) call.operation
    rw [answer_of_queued delivers.2]
    simp only [withoutFailure, noting] at emptied ⊢
    rw [emptied]
  own free := by
    have unqueued : (cluster.withFailures fun _ => []).failures call.operation = [] := rfl
    have noted : (cluster.withFailures fun _ => []).noting call =
        (cluster.noting call).withFailures fun _ => [] := rfl
    have kept := failures_of_free free
    rw [answer_of_free free] at kept
    rw [answer_of_free free, answer_of_free unqueued, noted, perform_withFailures]
    refine Prod.ext rfl ?_
    simp only [withFailures, ← kept]
  refused free error failed := by
    have ends := answer_ends cluster call
    generalize cluster.answer call = answered at ends failed ⊢
    cases ends with
    | failed queued => exact absurd (queued.symm.trans free) (List.cons_ne_nil _ _)
    | missed => rfl
    | unremovable => rfl
    | containerMissing => rfl
    | unawaited => rfl
    | _ => cases failed

/-- A call takes no more than the front of the queue for its kind. -/
theorem failures_eq_update (cluster : ScriptedCluster) (call : Call) :
    (cluster.answer call).2.failures =
      Function.update cluster.failures call.operation
        (cluster.failures call.operation).tail := by
  cases queue : cluster.failures call.operation with
  | nil => rw [failures_of_free queue, List.tail_nil, ← queue, Function.update_eq_self]
  | cons error rest =>
    rw [answer_of_queued queue, withoutFailure_failures, noting, queue]

/-- What is delivered is the front of the queue. -/
theorem delivered?_event (cluster : ScriptedCluster) (call : Call) (operation : Operation) :
    (cluster.event (.call call)).delivered? operation =
      if call.operation = operation then (cluster.failures operation).head? else none := by
  by_cases own : call.operation = operation
  · subst own
    cases queue : cluster.failures call.operation with
    | nil => simp [event, Event.delivered?, queue]
    | cons error rest =>
      simp [event, Event.delivered?, queue, answer_of_queued queue, Call.Entry.error?]
  · cases queue : cluster.failures call.operation <;> simp [event, Event.delivered?, queue, own]

/-! ## A whole run -/

/-- What is queued joins its queue at the end, and what is delivered leaves it at the front. -/
theorem failures_act (cluster : ScriptedCluster) (step : Act) (operation : Operation) :
    cluster.failures operation ++ ((cluster.event step).queued? operation).toList =
      ((cluster.event step).delivered? operation).toList ++
        (cluster.act step).failures operation := by
  cases step with
  | call call =>
    apply (List.append_nil _).trans
    rw [act, failures_eq_update, delivered?_event]
    by_cases own : call.operation = operation
    · subst own
      rw [if_pos rfl, Function.update_self]
      cases cluster.failures call.operation <;> rfl
    · rw [if_neg own, Function.update_of_ne (Ne.symm own)]
      rfl
  | pushFrame frame => exact List.append_nil _
  | addContainer id behavior => exact List.append_nil _
  | failNext kind error =>
    by_cases own : kind = operation
    · simp [event, act, Event.queued?, Event.delivered?, failNext, own]
    · simp [event, act, Event.queued?, Event.delivered?, failNext, own, Ne.symm own]

/-- What was queued, at first or since, was delivered in that order or is still queued. -/
theorem failures_acts (cluster : ScriptedCluster) (steps : List Act) (operation : Operation) :
    cluster.failures operation ++ (cluster.history steps).filterMap (Event.queued? operation) =
      (cluster.history steps).filterMap (Event.delivered? operation) ++
        (cluster.acts steps).failures operation := by
  induction steps generalizing cluster with
  | nil => exact List.append_nil _
  | cons step steps ih =>
    have rest := ih (cluster.act step)
    simp only [List.filterMap_eq_flatMap_toList] at rest ⊢
    rw [history, List.flatMap_cons, List.flatMap_cons, ← List.append_assoc, failures_act,
      List.append_assoc, rest, ← List.append_assoc]
    rfl

/-- An act is logged when it is a call. -/
theorem calls_act (cluster : ScriptedCluster) (step : Act) :
    (cluster.act step).calls = cluster.calls ++ step.call?.toList := by
  cases step with
  | call call =>
    have noted : (cluster.answer call).2.journal = call :: cluster.journal := by
      have ends := answer_ends cluster call
      generalize cluster.answer call = answered at ends ⊢
      cases ends <;> rfl
    rw [act, calls, noted, List.reverse_cons]
    rfl
  | pushFrame frame => exact (List.append_nil _).symm
  | addContainer id behavior => exact (List.append_nil _).symm
  | failNext kind error => exact (List.append_nil _).symm

/-- The log of a run has its calls, in their order. -/
theorem calls_acts (cluster : ScriptedCluster) (steps : List Act) :
    (cluster.acts steps).calls = cluster.calls ++ steps.filterMap Act.call? := by
  induction steps generalizing cluster with
  | nil => exact (List.append_nil _).symm
  | cons step steps ih =>
    have rest := ih (cluster.act step)
    rw [List.filterMap_eq_flatMap_toList] at rest ⊢
    rw [List.flatMap_cons, ← List.append_assoc, ← calls_act]
    exact rest

/-- **Failures are delivered exactly.** Let anything happen to a cluster for which nothing was
queued at first. The errors that were queued for a kind of call are those that answered calls of
that kind, in order, and behind them those that still wait; the log holds every call that was made,
in order; and whatever call comes next, it deals with the queues as it has to. -/
theorem failures_delivered (frames : List Frame) (steps : List Act) :
    let cluster := (ofFrames frames).acts steps
    let events := (ofFrames frames).history steps
    (∀ operation, events.filterMap (Event.queued? operation) =
        events.filterMap (Event.delivered? operation) ++ cluster.failures operation) ∧
      cluster.calls = steps.filterMap Act.call? ∧
      ∀ call, Atomic cluster call :=
  ⟨failures_acts (ofFrames frames) steps, calls_acts (ofFrames frames) steps, atomic _⟩

end ScriptedCluster

end ReplicaWatch
