import ReplicaWatch.Cluster.Scripted
import ReplicaWatch.Convergence.Clock

/-! # Rehearsals

A scripted cluster as a client on the clock. The calls of each kind take the times that
are laid down for them, one after another, and no time once these are used up.
-/

namespace ReplicaWatch

/-- A scripted cluster, and the times that the coming calls of each kind take. -/
structure Rehearsal where
  cluster : ScriptedCluster
  latencies : Operation → List Nat

namespace Rehearsal

/-- A rehearsal in which every call is answered at once. -/
def instant (cluster : ScriptedCluster) : Rehearsal := ⟨cluster, fun _ => []⟩

/-- The client that a rehearsal is. -/
def client : Client Rehearsal where
  travel call rehearsal :=
    ((rehearsal.latencies call.operation).head?.getD 0,
      { rehearsal with
        latencies := fun op =>
          if op = call.operation then (rehearsal.latencies op).tail else rehearsal.latencies op })
  answer call rehearsal :=
    let (answer, cluster) := rehearsal.cluster.answer call
    (answer, { rehearsal with cluster })

end Rehearsal

end ReplicaWatch
