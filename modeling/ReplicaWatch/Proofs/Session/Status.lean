import ReplicaWatch.Proofs.Dialogue.PollLog
import ReplicaWatch.Proofs.Session.Places

/-! # A look without a wait

A status and a poll of a service that was created make the same calls and come to the same
(`Session.status_compares`), whatever the session of the poll has seen before. A session remembers
the places of slots and whether it is done, and no more than the places shows in its reports
(`Session.report_agrees`).
-/

namespace ReplicaWatch

/-- Answers to all calls. -/
abbrev Call.Answers : Type := (call : Call) → call.Answer

/-- A line without its place. -/
def SlotLine.unplaced (line : SlotLine) : SlotLine := { line with index := 0 }

namespace Progress

/-- Two reports tell the same, but for the places of the slots and hence the order of the lines. -/
structure Agrees (progress other : Progress) : Prop where
  service : progress.service = other.service
  running : progress.running = other.running
  desired : progress.desired = other.desired
  rollback : progress.rollback = other.rollback
  slots : (progress.slots.map SlotLine.unplaced).Perm (other.slots.map SlotLine.unplaced)

/-- Reports that agree are both of a converged service or neither. -/
theorem Agrees.isConverged_eq {progress other : Progress} (agrees : progress.Agrees other) :
    progress.isConverged = other.isConverged := by
  rw [isConverged, isConverged, agrees.running, agrees.desired]

end Progress

namespace Session

variable {id : String} {timeout : Duration} {session other : Session} {look : Look}
  {progress : Progress}

/-- The session behind one poll after another, each with the answers that it got. -/
def polled (mode : ConvergenceMode) (id : String) (timeout : Duration) (session : Session) :
    List Call.Answers → Session
  | [] => session
  | answers :: later =>
    polled mode id timeout ((session.poll mode id timeout).resultUnder answers).2 later

/-- Polls leave the session at its service. -/
theorem service_polled (mode : ConvergenceMode) (earlier : List Call.Answers) :
    (session.polled mode id timeout earlier).service = session.service := by
  induction earlier generalizing session with
  | nil => rfl
  | cons answers later ih =>
    obtain ⟨exchanges, answered⟩ :=
      (session.poll mode id timeout).answered_resultUnder answers
    rw [polled, ih, service_of_ends (poll_ends answered)]

/-- Without their places, the lines are those of the tasks that hold the slots. -/
theorem unplaced_lines_perm (places : PlaceMap) (slots : SlotMap) :
    ((lines places slots).map SlotLine.unplaced).Perm
      (slots.tasks.map fun task => (lineOf .empty task).unplaced) := by
  have perm := (lines_perm places slots).map SlotLine.unplaced
  rw [List.map_map] at perm
  exact perm

/-- **What a session remembers.** Of two sessions of one service, both have a report on a look or
neither has, and their reports tell the same. -/
theorem report_agrees (same : session.service = other.service) (look : Look) :
    look.snapshot.service.replicas? = none ∧
        session.report look = .error (.noReplicaCount session.service) ∧
        other.report look = .error (.noReplicaCount session.service) ∨
      ∃ progress again, session.report look = .ok progress ∧ other.report look = .ok again ∧
        progress.Agrees again := by
  unfold report observe
  split
  · next missing => exact .inl ⟨missing, rfl, by rw [same]⟩
  · next replicas wanted =>
    refine .inr ⟨_, _, rfl, rfl, same, rfl, rfl, rfl, ?_⟩
    exact (unplaced_lines_perm _ _).trans (unplaced_lines_perm _ _).symm

/-- A count reports what a look would, and settles on an outcome. -/
theorem count_of_report (session : Session) (look : Look) :
    (session.count look.snapshot look.rollback).1 =
      (session.report look).map fun progress =>
        ⟨.settle progress.isConverged look.rollback look.snapshot.service.updateMessage,
          some progress⟩ := by
  unfold count report
  split
  · next failed => rw [failed]; rfl
  · next counted => rw [counted]; rfl

/-- What a status and a poll come to that have made the same calls. Both fail with the answer to the
last call, both miss a number of replicas, or both report the same; then the poll converges if that
is what the status shows. On the first poll the reports are equal. -/
inductive Compares (id : String) (timeout : Duration) (answers : Call.Answers) (first : Prop) :
    List Call → Except ConvergenceError Progress → Except ConvergenceError Observation → Prop where
  | failed {asked : List Call} {call : Call} {source : ClusterError}
      (last : asked.getLast? = some call) (failure : answers call = .error source) :
      Compares id timeout answers first asked (.error (.cluster id .zero source))
        (.error (.cluster id timeout source))
  | uncounted {service : Service} (inspected : answers (.inspectService id) = .ok service)
      (missing : service.replicas? = none) :
      Compares id timeout answers first (pollCalls id) (.error (.noReplicaCount id))
        (.error (.noReplicaCount id))
  | counted {shown progress : Progress} {outcome : Outcome} (agrees : shown.Agrees progress)
      (decides : shown.isConverged = true ↔ outcome = .converged)
      (same : first → shown = progress) :
      Compares id timeout answers first (pollCalls id) (.ok shown) (.ok ⟨outcome, some progress⟩)

/-- What a session counts compares with the report of one that has not looked yet. -/
theorem count_compares {answers : Call.Answers} {first : Prop} (own : session.service = id)
    (starts : first → session = start id) (look : Look) (forward : look.rollback = false)
    (inspected : answers (.inspectService id) = .ok look.snapshot.service) :
    Compares id timeout answers first (pollCalls id) ((start id).report look)
      (session.count look.snapshot look.rollback).1 := by
  have same : (start id).service = session.service := own.symm
  rw [count_of_report]
  rcases report_agrees same look with
    ⟨missing, shown, again⟩ | ⟨shown, progress, shows, again, agrees⟩
  · rw [shown, again]
    exact .uncounted inspected missing
  · rw [shows, again]
    refine .counted agrees ?_ ?_
    · rw [agrees.isConverged_eq, Outcome.settle_eq_converged_iff, and_iff_left forward]
    · intro begins
      rw [starts begins, shows] at again
      exact Except.ok.inj again

/-- **One look.** A status makes the calls of a poll, and compares with it. -/
theorem look_compares {first : Prop} (own : session.service = id)
    (starts : first → session = start id) (answers : Call.Answers) :
    (status id false).questionsUnder answers =
        (session.poll .creating id timeout).questionsUnder answers ∧
      Compares id timeout answers first ((status id false).questionsUnder answers)
        ((status id false).resultUnder answers)
        ((session.poll .creating id timeout).resultUnder answers).1 := by
  cases inspected : answers (.inspectService id) with
  | error source =>
    simp only [status, poll, Dialogue.questionsUnder, Dialogue.resultUnder, inspected, true_and]
    exact .failed rfl inspected
  | ok service =>
    cases listed : answers (.listTasks (.running id)) with
    | error source =>
      simp only [status, poll, ConvergenceMode.verdict, Dialogue.questionsUnder,
        Dialogue.resultUnder, inspected, listed, true_and]
      exact .failed rfl listed
    | ok tasks =>
      cases known : answers .listNodes with
      | error source =>
        simp only [status, poll, ConvergenceMode.verdict, Dialogue.questionsUnder,
          Dialogue.resultUnder, inspected, listed, known, true_and]
        exact .failed rfl known
      | ok nodes =>
        simp only [status, poll, ConvergenceMode.verdict, Dialogue.questionsUnder,
          Dialogue.resultUnder, inspected, listed, known, true_and]
        exact count_compares own starts ⟨⟨service, tasks, nodes⟩, false⟩ rfl inspected

/-- **A status and a poll agree.** Let a session have been through any number of polls, however they
were answered. A status and a further poll, of a service that was created, make the same calls when
they are answered the same. If one of them fails, so does the other, with the answer to the same
call, or both for want of a number of replicas. If they succeed, they report the same but for the
places of the slots, and the poll converges just when the status shows that as many replicas run as
are wanted. If there has been no poll before, their reports are equal. -/
theorem status_agrees (mode : ConvergenceMode) (id : String) (timeout : Duration)
    (earlier : List Call.Answers) (answers : Call.Answers) :
    (status id false).questionsUnder answers =
        (((start id).polled mode id timeout earlier).poll .creating id timeout).questionsUnder
          answers ∧
      Compares id timeout answers (earlier = []) ((status id false).questionsUnder answers)
        ((status id false).resultUnder answers)
        ((((start id).polled mode id timeout earlier).poll .creating id timeout).resultUnder
          answers).1 := by
  apply look_compares
  · exact service_polled mode earlier
  · rintro rfl
    rfl

end Session

end ReplicaWatch
