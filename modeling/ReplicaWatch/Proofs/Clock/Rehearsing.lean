import ReplicaWatch.Convergence.Rehearsal
import ReplicaWatch.Proofs.Clock.Race
import ReplicaWatch.Proofs.Cluster.Reading

/-! # Moves in a rehearsal

In a rehearsal a move on the clock passes the scripted cluster by, or does to it what its call
does (`Rehearsal.cluster_race`, `Rehearsal.cluster_call`). In particular, a cluster that is
only looked at is left untouched (`Rehearsal.looking_law`).
-/

namespace ReplicaWatch.Rehearsal

theorem cluster_of_leads {call : Call} {before after : Rehearsal}
    (leads : client.Leads call before after) :
    after.cluster = before.cluster ∨ after.cluster = (before.cluster.answer call).2 := by
  cases leads with
  | travels => exact .inl rfl
  | arrived => exact .inr rfl

/-- A race reaches the cluster once at most. -/
theorem cluster_race (deadline : Nat) (token : Token) (call : Call) (w : World Rehearsal) :
    (w.race client deadline token call).2.state.cluster = w.state.cluster ∨
      (w.race client deadline token call).2.state.cluster = (w.state.cluster.answer call).2 := by
  rcases World.race_leads client deadline token call w with same | leads
  · exact .inl (congrArg cluster same)
  · exact cluster_of_leads leads

/-- A call that may take its time reaches the cluster and brings its answer back. -/
theorem cluster_call (call : Call) (w : World Rehearsal) :
    ((w.call client call).1, (w.call client call).2.state.cluster) = w.state.cluster.answer call :=
  rfl

/-- A cluster that is only looked at is left untouched. -/
theorem looking_law (token : Token) (id : String) :
    World.StepLaw client token (Call.LooksAt id)
      fun before after => before.state.cluster.Untouched after.state.cluster where
  refl w := .refl w.state.cluster
  trans first second := first.trans second
  race deadline call w looks := by
    rcases cluster_race deadline token call w with same | answered
    · rw [same]
      exact .refl w.state.cluster
    · rw [answered]
      exact ScriptedCluster.answer_untouched looks.isRead w.state.cluster
  pause length w := by
    rw [World.state_pause]
    exact .refl w.state.cluster

end ReplicaWatch.Rehearsal
