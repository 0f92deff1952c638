import ReplicaWatch.Cluster.Scripted

/-! # What a scripted cluster answers

A call of a scripted cluster is answered in one of a few ways (`ScriptedCluster.AnswerEnds`):
with a failure that is queued for its kind, by its effect, or with the report that there is
nothing to act on. What is said elsewhere of single calls is read off this list.
-/

namespace ReplicaWatch.ScriptedCluster

/-- The cluster after one more inspection that was not failed. -/
def advanced (cluster : ScriptedCluster) : ScriptedCluster :=
  { cluster with inspections := cluster.inspections + 1 }

/-- The ways in which a call is answered, and the cluster that each leaves. -/
inductive AnswerEnds (cluster : ScriptedCluster) :
    (call : Call) → Option call.Answer × ScriptedCluster → Prop where
  | failed {call : Call} {error : ClusterError} {rest : List ClusterError}
      (queued : cluster.failures call.operation = error :: rest) :
      AnswerEnds cluster call
        (some (.error error), (cluster.noting call).withoutFailure call.operation)
  | tasksListed {filter : TaskFilter} (free : cluster.failures .listTasks = []) :
      AnswerEnds cluster (.listTasks filter)
        (some (.ok (cluster.tasksFor filter)), cluster.noting (.listTasks filter))
  | nodesListed (free : cluster.failures .listNodes = []) :
      AnswerEnds cluster .listNodes (some (.ok cluster.nodes), cluster.noting .listNodes)
  | inspected {id : String} {service : Service} (free : cluster.failures .inspectService = [])
      (found : cluster.advanced.service? id = some service) :
      AnswerEnds cluster (.inspectService id)
        (some (.ok service), cluster.advanced.noting (.inspectService id))
  | missed {id : String} (free : cluster.failures .inspectService = [])
      (missing : cluster.advanced.service? id = none) :
      AnswerEnds cluster (.inspectService id)
        (some (.error (missingService id)), cluster.advanced.noting (.inspectService id))
  | removed {id : String} (free : cluster.failures .removeService = [])
      (known : cluster.knows id = true) (unremoved : id ∉ cluster.removedServices) :
      AnswerEnds cluster (.removeService id)
        (some (.ok ()),
          { cluster.noting (.removeService id) with
            removedServices := cluster.removedServices ++ [id] })
  | unremovable {id : String} (free : cluster.failures .removeService = [])
      (gone : cluster.knows id = true → id ∈ cluster.removedServices) :
      AnswerEnds cluster (.removeService id)
        (some (.error (missingService id)), cluster.noting (.removeService id))
  | containerRemoved {id : String} {options : RemoveOptions} {behavior : ContainerBehavior}
      (free : cluster.failures .removeContainer = [])
      (present : cluster.container? id = some behavior) :
      AnswerEnds cluster (.removeContainer id options)
        (some (.ok ()),
          { (cluster.noting (.removeContainer id options)).withoutContainer id with
            removedContainers := cluster.removedContainers ++ [id] })
  | containerMissing {id : String} {options : RemoveOptions}
      (free : cluster.failures .removeContainer = []) (absent : cluster.container? id = none) :
      AnswerEnds cluster (.removeContainer id options)
        (some (.error (missingContainer id)), cluster.noting (.removeContainer id options))
  | exited {id : String} {code : Int} (free : cluster.failures .waitContainerRemoved = [])
      (present : cluster.container? id = some (.exits code)) :
      AnswerEnds cluster (.waitContainerRemoved id)
        (some (.ok code), (cluster.noting (.waitContainerRemoved id)).withoutContainer id)
  | lingering {id : String} (free : cluster.failures .waitContainerRemoved = [])
      (present : cluster.container? id = some .lingers) :
      AnswerEnds cluster (.waitContainerRemoved id)
        (none, cluster.noting (.waitContainerRemoved id))
  | unawaited {id : String} (free : cluster.failures .waitContainerRemoved = [])
      (absent : cluster.container? id = none) :
      AnswerEnds cluster (.waitContainerRemoved id)
        (some (.error (missingContainer id)), cluster.noting (.waitContainerRemoved id))

private theorem perform_ends {cluster : ScriptedCluster} {call : Call}
    (free : cluster.failures call.operation = []) :
    AnswerEnds cluster call ((cluster.noting call).perform call) := by
  cases call with
  | listTasks filter => exact .tasksListed free
  | listNodes => exact .nodesListed free
  | inspectService id =>
    dsimp only [perform]
    split
    · next service found => exact .inspected free found
    · next missing => exact .missed free missing
  | removeService id =>
    dsimp only [perform]
    split
    · next present =>
      obtain ⟨known, unremoved⟩ := Bool.and_eq_true_iff.mp present
      exact .removed free known (by simpa [noting] using unremoved)
    · next absent =>
      apply AnswerEnds.unremovable free
      intro known
      apply Decidable.byContradiction
      intro unremoved
      refine absent (Bool.and_eq_true_iff.mpr ⟨known, ?_⟩)
      simpa [noting] using unremoved
  | removeContainer id options =>
    dsimp only [perform]
    split
    · next behavior present => exact .containerRemoved free present
    · next absent => exact .containerMissing free absent
  | waitContainerRemoved id =>
    dsimp only [perform]
    split
    · next code present => exact .exited free present
    · next present => exact .lingering free present
    · next absent => exact .unawaited free absent

theorem answer_ends (cluster : ScriptedCluster) (call : Call) :
    AnswerEnds cluster call (cluster.answer call) := by
  unfold answer
  split
  · next error rest queued => exact .failed queued
  · next free => exact perform_ends free

end ReplicaWatch.ScriptedCluster
