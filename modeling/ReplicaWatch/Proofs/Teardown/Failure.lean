import ReplicaWatch.Convergence.Rehearsal
import ReplicaWatch.Proofs.Teardown.Ledger

/-! # What makes a teardown fail

A failure that means that something is gone already is no failure of a teardown, whether the
inspection, the removal of the service, a wait for a container or its removal is answered with it.
Only the listing of the tasks passes it on (`Teardown.run_error_gone_iff`).
-/

namespace ReplicaWatch.Teardown

variable {σ : Type}

/-- **A teardown fails for what is gone already exactly when its listing does.** Whatever it is
answered, a teardown that fails with an error which means that something is gone was given that
error for its listing of the tasks, and a listing that is answered with an error ends the teardown
with it. -/
theorem run_error_gone_iff (client : Client σ) (token : Token) (id : String) (w : World σ) :
    ∃ outcome after log, run client token id w = (outcome, after) ∧
      run client.logged token id (w.logged []) = (outcome, after.logged log) ∧
      (w.callsUntil after).map Prod.snd = log.map Sigma.fst ∧
      ∀ error, error.isAlreadyGone = true →
        (outcome = some (.error error) ↔
          (⟨.listTasks (.all id), some (.error error)⟩ : Call.Entry) ∈ log) := by
  obtain ⟨outcome, after, containers, log, torn, ran, logs, course⟩ :=
    run_logged client token id w
  have unhurried := run_unhurried client token id w
  rw [torn] at unhurried
  refine ⟨outcome, after, log, torn, ran, logs.callsUntil_eq unhurried, ?_⟩
  intro error gone
  constructor
  · rintro rfl
    obtain ⟨call, logged, listing⟩ := course.error_logged
    rw [listing gone] at logged
    exact logged
  · exact course.of_unlisted

/-- A service with a grace period, whose tasks are listed when it is gone already. -/
private def vanishing : World Rehearsal :=
  ⟨0, .instant ((ScriptedCluster.ofFrames
    [⟨some ⟨"web", "web", .replicated (some 1), none, some (.ofSeconds 5)⟩,
      [⟨"a", "web", 0, "", .known .running, .known .running, some "ca", ""⟩], []⟩]).failNext
    .listTasks (.notFound "service web not found")), []⟩

/-- A listing that tells that the service is gone makes a teardown fail. -/
theorem run_error_gone_vanishing :
    (ClusterError.notFound "service web not found").isAlreadyGone = true ∧
      (run Rehearsal.client .never "web" vanishing).1 =
        some (.error (.notFound "service web not found")) :=
  ⟨rfl, rfl⟩

end ReplicaWatch.Teardown
