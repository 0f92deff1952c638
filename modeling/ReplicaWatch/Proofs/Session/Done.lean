import ReplicaWatch.Proofs.Session.Places
import ReplicaWatch.Proofs.Since

/-! # When a session is done

A session is done when some look found as many replicas running as are wanted, and every slot that
a later look resolved was held by a task that ran (`Session.done_iff_since`). A look that finds too
few or too many replicas ends this only if a slot is still resolved whose task does not run
(`Session.done_of_unconverged`), and not if slots are no longer resolved or another number of
replicas is wanted (`Session.done_outlives_convergence`).
-/

namespace ReplicaWatch

/-- The slots that count towards the replicas in a look. -/
def Look.counted (look : Look) : Set Nat :=
  {slot | SlotSatisfied look.snapshot.tasks (.ofNodes look.snapshot.nodes) slot}

/-- Every slot that a look resolves is held by a task that is observed running. -/
def Look.AllRun (look : Look) : Prop :=
  ∀ slot task, look.slots.get? slot = some task → task.observed = .known .running

/-- A look, and what a session reported on it. -/
structure Reported where
  look : Look
  result : Except ConvergenceError Progress

namespace Reported

/-- The report finds as many replicas running as are wanted. -/
def Converged (reported : Reported) : Prop :=
  ∃ progress, reported.result = .ok progress ∧ progress.running = progress.desired

/-- If there is a report, every slot of the look is held by a task that is observed running. -/
def Runs (reported : Reported) : Prop :=
  ∀ progress, reported.result = .ok progress → reported.look.AllRun

end Reported

namespace Session

/-- The looks of a session, each with what was reported on it. -/
def history (session : Session) : List Look → List Reported
  | [] => []
  | look :: looks => ⟨look, session.report look⟩ :: (session.next look).history looks

variable {session : Session} {look : Look} {progress : Progress}

/-- One more look adds one report. -/
theorem history_concat (session : Session) (looks : List Look) (look : Look) :
    session.history (looks ++ [look]) =
      session.history looks ++ [⟨look, (session.after looks).report look⟩] := by
  induction looks generalizing session with
  | nil => rfl
  | cons first looks ih => exact congrArg _ (ih (session.next first))

/-- Every report of a history was made by some session on its own look. -/
theorem reported_of_mem_history {looks : List Look} {reported : Reported}
    (member : reported ∈ session.history looks) :
    ∃ former : Session, reported.result = former.report reported.look := by
  induction looks generalizing session with
  | nil => cases member
  | cons look looks ih =>
    rcases List.mem_cons.mp member with rfl | later
    · exact ⟨session, rfl⟩
    · exact ih later

/-- A session finds all slots running just when each is held by a running task. -/
theorem allRunning_iff : allRunning look.slots = true ↔ look.AllRun := by
  simp only [allRunning, List.all_eq_true, ReportedState.is_iff, Look.AllRun,
    SlotMap.get?_eq_some_iff]
  exact ⟨fun runs _ task held => runs task held.1, fun runs task held => runs _ task ⟨held, rfl⟩⟩

/-- A report counts the slots that count in the look. -/
theorem encard_counted (reported : session.report look = .ok progress) :
    look.counted.encard = progress.running := by
  rw [(looked_of_ok reported).running]
  exact SlotMap.encard_satisfied _ _

/-- **One look.** A session is done behind a look that finds as many replicas running as are wanted,
and stays done behind one whose resolved slots all run. -/
theorem done_next_iff (session : Session) (look : Look) :
    (session.next look).done = true ↔
      Reported.Converged ⟨look, session.report look⟩ ∨
        Reported.Runs ⟨look, session.report look⟩ ∧ session.done = true := by
  cases result : session.report look with
  | error error =>
    simp [Reported.Converged, Reported.Runs, (next_of_error result).2.2]
  | ok progress =>
    simp only [Reported.Converged, Reported.Runs, (looked_of_ok result).done, Bool.or_eq_true,
      Bool.and_eq_true, beq_iff_eq, allRunning_iff, Except.ok.injEq]
    grind

/-- **Many looks.** A session is done since one of its looks, or because it was so before them. -/
theorem done_after_iff (session : Session) (looks : List Look) :
    (session.after looks).done = true ↔
      Since Reported.Runs Reported.Converged (session.history looks) ∨
        session.done = true ∧ ∀ reported ∈ session.history looks, reported.Runs := by
  induction looks using List.reverseRecOn with
  | nil => simp [after, history, not_since_nil]
  | append_singleton looks last ih =>
    have one : session.after (looks ++ [last]) = (session.after looks).next last :=
      after_append session looks [last]
    rw [one, history_concat, since_concat, done_next_iff, ih, List.forall_mem_append,
      List.forall_mem_singleton]
    grind

/-- A session that is done converged at some look, and all slots ran at every look since. -/
theorem since_of_done {service : String} {looks : List Look}
    (done : ((start service).after looks).done = true) :
    Since Reported.Runs Reported.Converged ((start service).history looks) := by
  rcases (done_after_iff (start service) looks).mp done with since | ⟨already, -⟩
  · exact since
  · cases already

/-- **When a session is done.** Whatever a session is shown, it is done just when one of its reports
found as many replicas running as were wanted, and in each look after it that has a report, every
slot that was resolved was held by a task that was observed running. -/
theorem done_iff_since (service : String) (looks : List Look) :
    ((start service).after looks).done = true ↔
      Since Reported.Runs Reported.Converged ((start service).history looks) :=
  ⟨since_of_done, fun since => (done_after_iff (start service) looks).mpr (.inl since)⟩

/-- **What ends it, and what does not.** A report that finds too few or too many replicas leaves a
session done just when it was done before, and every slot that the look resolves is held by a task
that is observed running. If it is left done, then one of its reports had found as many replicas
running as were wanted, every slot that was resolved since then was held by a task that ran, and
either the number that is wanted has changed, or the slots that count have. -/
theorem done_of_unconverged (service : String) (looks : List Look)
    (reported : ((start service).after looks).report look = .ok progress)
    (apart : progress.running ≠ progress.desired) :
    ((((start service).after looks).next look).done = true ↔
        ((start service).after looks).done = true ∧ look.AllRun) ∧
      ((((start service).after looks).next look).done = true →
        Since Reported.Runs
          (fun reached => ∃ earlier, reached.result = .ok earlier ∧
            earlier.running = earlier.desired ∧
            (earlier.desired ≠ progress.desired ∨ reached.look.counted ≠ look.counted))
          ((start service).history looks)) := by
  have kept : (((start service).after looks).next look).done = true ↔
      ((start service).after looks).done = true ∧ look.AllRun := by
    rw [(looked_of_ok reported).done, beq_eq_false_iff_ne.mpr apart, Bool.or_false,
      Bool.and_eq_true, allRunning_iff]
  refine ⟨kept, fun done => (since_of_done (kept.mp done).1).imp ?_⟩
  rintro reached member ⟨earlier, found, converged⟩
  refine ⟨earlier, found, converged, ?_⟩
  by_contra same
  obtain ⟨wanted, counted⟩ := not_or.mp same
  obtain ⟨former, made⟩ := reported_of_mem_history member
  -- With the same slots counted and the same number wanted, this report would converge too.
  have running : (earlier.running : ℕ∞) = progress.running := by
    rw [← encard_counted (made.symm.trans found), ← encard_counted reported,
      Decidable.not_not.mp counted]
  apply apart
  rw [← Nat.cast_inj.mp running, converged, Decidable.not_not.mp wanted]

/-- A look at a service of which some replicas are wanted, on two nodes. -/
private def glimpse (wanted : Nat) (tasks : List Task) (second : NodeState) : Look :=
  ⟨⟨⟨"web", "web", .replicated (some wanted), none, none⟩, tasks,
    [⟨"n1", .ready⟩, ⟨"n2", second⟩]⟩, false⟩

/-- A replica that is wanted running. -/
private def replica (id node : String) (slot : Nat) (observed : TaskState) : Task :=
  ⟨id, "web", slot, node, .known .running, .known observed, none, ""⟩

/-- Both replicas run. -/
private def settled : Look :=
  glimpse 2 [replica "a" "n1" 1 .running, replica "b" "n2" 2 .running] .ready

/-- One of them is started again. -/
private def flapping : Look :=
  glimpse 2 [replica "a" "n1" 1 .running, replica "b" "n2" 2 .starting] .ready

/-- The session was done, and is so no more while one of the replicas is started again. -/
theorem done_of_unconverged_flapping :
    ∃ progress, ((start "web").after [settled]).report flapping = .ok progress ∧
      progress.running ≠ progress.desired ∧ ((start "web").after [settled]).done = true ∧
      ¬(((start "web").after [settled]).next flapping).done = true := by
  refine ⟨_, rfl, by decide, rfl, fun done => ?_⟩
  have runs := ((done_of_unconverged "web" [settled] rfl (by decide)).1.mp done).2
  exact absurd (allRunning_iff.mpr runs) (by decide)

/-- Both replicas run, and one more is wanted. -/
private def raised : Look :=
  glimpse 3 [replica "a" "n1" 1 .running, replica "b" "n2" 2 .running] .ready

/-- The task of one replica is not listed. -/
private def unlisted : Look := glimpse 2 [replica "a" "n1" 1 .running] .ready

/-- The node of one replica is down. -/
private def stranded : Look :=
  glimpse 2 [replica "a" "n1" 1 .running, replica "b" "n2" 2 .running] .down

/-- A session can stay done although too few replicas run: when more of them are wanted, when a task
is no longer listed, and when the node of a task is down. -/
theorem done_outlives_convergence :
    (∃ progress, ((start "web").after [settled]).report raised = .ok progress ∧
      progress.running = 2 ∧ progress.desired = 3 ∧
      (((start "web").after [settled]).next raised).done = true) ∧
    (∃ progress, ((start "web").after [settled]).report unlisted = .ok progress ∧
      progress.running = 1 ∧ progress.desired = 2 ∧
      (((start "web").after [settled]).next unlisted).done = true) ∧
    ∃ progress, ((start "web").after [settled]).report stranded = .ok progress ∧
      progress.running = 1 ∧ progress.desired = 2 ∧
      (((start "web").after [settled]).next stranded).done = true :=
  ⟨⟨_, rfl, rfl, rfl, rfl⟩, ⟨_, rfl, rfl, rfl, rfl⟩, _, rfl, rfl, rfl, rfl⟩

end Session

end ReplicaWatch
