import ReplicaWatch.Convergence.Operation
import ReplicaWatch.Proofs.Teardown.Removal
import ReplicaWatch.Proofs.Wait.Conduct

/-! # What a creation leaves behind

Waiting for a service that was just created, over a scripted cluster that serves it, always
comes to an answer. An error means that the service was removed and is never seen again,
unless the error says that the removal failed as well; and a success means that nothing was
removed (`Operation.awaitCreation_clean`).
-/

namespace ReplicaWatch

variable {id : String}

/-- A wait leaves the cluster of a rehearsal untouched. -/
theorem Wait.run_untouched (wait : Wait) (token : Token) (w : World Rehearsal) :
    w.state.cluster.Untouched (wait.run Rehearsal.client token w).2.state.cluster :=
  Wait.run_upholds (Rehearsal.looking_law token wait.service) w

namespace Operation

/-- **A failed creation leaves no service behind.** Over a cluster that serves a service,
whatever the configuration, the times that calls take, the failures that are queued and the
moment of cancellation: an error other than that of a failed teardown means that the service
was removed, and then nothing that happens to the cluster makes an inspection of it succeed;
a success means that no service and no container was removed. -/
theorem awaitCreation_clean {w : World Rehearsal} (serves : w.state.cluster.Serves id)
    (config : ConvergenceConfig) (token : Token) :
    ∃ result after, awaitCreation Rehearsal.client id config token w = (some result, after) ∧
      (∀ error, result = .error error →
        (∀ primary teardown, error ≠ .teardownFailed primary teardown) →
        id ∈ after.state.cluster.removedServices ∧
          ∀ steps service,
            ((after.state.cluster.acts steps).answer (.inspectService id)).1 ≠
              some (.ok service)) ∧
      ∀ convergence, result = .ok convergence →
        after.state.cluster.removedServices = w.state.cluster.removedServices ∧
          after.state.cluster.containers = w.state.cluster.containers ∧
          after.state.cluster.removedContainers = w.state.cluster.removedContainers := by
  have left := Wait.run_untouched ⟨id, config, .creating⟩ token w
  rcases waited : Wait.run ⟨id, config, .creating⟩ Rehearsal.client token w with
    ⟨error | convergence, middle⟩
  · rw [waited] at left
    -- The wait only looked, so the teardown finds the service as it stood.
    obtain ⟨torn, after, teardown, removes⟩ :=
      Teardown.run_removes (serves.untouched left) token
    unfold awaitCreation
    simp only [waited, teardown]
    cases torn with
    | error failure =>
      refine ⟨_, _, rfl, ?_, nofun⟩
      intro error same other
      cases same
      exact absurd rfl (other _ _)
    | ok report =>
      have gone := removes report rfl
      refine ⟨_, _, rfl, fun _ _ _ => ⟨gone, ?_⟩, nofun⟩
      intro steps service
      have still := (ScriptedCluster.removedServices_acts after.state.cluster steps).mem gone
      exact ScriptedCluster.uninspected_of_removed still service
  · rw [waited] at left
    unfold awaitCreation
    simp only [waited]
    exact ⟨_, _, rfl, nofun, fun _ _ =>
      ⟨left.removedServices, left.containers, left.removedContainers⟩⟩

/-- A script of one frame, in which a service of one replica has no task yet; listing its tasks
will fail once. -/
private def unstarted : World Rehearsal :=
  ⟨0, .instant ((ScriptedCluster.ofFrames
    [⟨some ⟨"svc", "svc", .replicated (some 1), none, none⟩, [], []⟩]).failNext .listTasks .http),
    []⟩

private theorem unstarted_serves : unstarted.state.cluster.Serves "svc" where
  scripted := nofun
  shown frame member := by
    rw [List.mem_singleton.mp member]
    exact ⟨_, rfl, rfl⟩
  plain operation error queued := by
    cases operation with
    | listTasks => rw [List.mem_singleton.mp queued]; rfl
    | _ => cases queued
  unremoved := nofun

theorem awaitCreation_clean_unstarted :
    ∃ after, awaitCreation Rehearsal.client "svc" ⟨.zero, .zero, .zero, .zero⟩ .never unstarted =
        (some (.error (.invalidConfig .zeroTimeout)), after) ∧
      "svc" ∈ after.state.cluster.removedServices ∧
      ∀ steps service,
        ((after.state.cluster.acts steps).answer (.inspectService "svc")).1 ≠
          some (.ok service) := by
  obtain ⟨result, after, awaited, failed, -⟩ :=
    awaitCreation_clean unstarted_serves ⟨.zero, .zero, .zero, .zero⟩ .never
  have unusable : (awaitCreation Rehearsal.client "svc" ⟨.zero, .zero, .zero, .zero⟩ .never
      unstarted).1 = some (.error (.invalidConfig .zeroTimeout)) := rfl
  rw [awaited] at unusable
  cases unusable
  exact ⟨after, awaited, failed _ rfl nofun⟩

end Operation

end ReplicaWatch
