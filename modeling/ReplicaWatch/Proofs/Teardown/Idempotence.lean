import ReplicaWatch.Proofs.Teardown.Rehearsed

/-! # Tearing down what is gone

Once a teardown has removed its service, every further one finds nothing to do
(`Teardown.run_idempotent`), even when the script shows the service again, or a container comes back
under its old id: a removed service stays removed (`ScriptedCluster.Gone`), and a teardown that
does not find its service looks at nothing else (`Teardown.run_of_gone`).
-/

namespace ReplicaWatch

namespace ScriptedCluster

variable {id : String} {call : Call} {cluster before after : ScriptedCluster}
  {entries : List Call.Entry}

/-- The service was removed, and no failure keeps an inspection from telling so. -/
structure Gone (id : String) (cluster : ScriptedCluster) : Prop where
  removed : id ∈ cluster.removedServices
  free : cluster.failures .inspectService = []

/-- The same services are removed, the same containers are there, the same were removed, and the
same failures are queued. -/
structure Unchanged (before after : ScriptedCluster) : Prop where
  removedServices : after.removedServices = before.removedServices
  containers : after.containers = before.containers
  removedContainers : after.removedContainers = before.removedContainers
  failures : after.failures = before.failures

/-- An act does not queue a failure for inspections. -/
def Act.Unobstructive : Act → Prop
  | .failNext operation _ => operation ≠ .inspectService
  | _ => True

/-- A call succeeds only when no failure is queued for its kind. -/
theorem failures_of_ok {success : call.Success}
    (succeeded : (cluster.answer call).1 = some (.ok success)) :
    cluster.failures call.operation = [] := by
  unfold answer at succeeded
  split at succeeded
  · cases succeeded
  · next free => exact free

/-- A call that has succeeded found no failure queued for its kind, and calls queue none. -/
theorem Answers.failures_of_ok {success : call.Success} (answers : before.Answers entries after)
    (succeeded : (⟨call, some (.ok success)⟩ : Call.Entry) ∈ entries) :
    after.failures call.operation = [] := by
  induction answers with
  | nil => cases succeeded
  | @cons cluster middle _ _ _ _ answered rest ih =>
    rcases List.mem_cons.mp succeeded with same | later
    · cases same
      have free := cluster.failures_of_ok (congrArg Prod.fst answered)
      have used := ((single answered).append rest).failures call.operation
      rwa [free, List.suffix_nil] at used
    · exact ih later

namespace Gone

/-- A service that is gone stays gone as long as nothing changes. -/
theorem unchanged (gone : cluster.Gone id) (same : cluster.Unchanged after) : after.Gone id where
  removed := by
    rw [same.removedServices]
    exact gone.removed
  free := by
    rw [same.failures]
    exact gone.free

/-- No act brings a removed service back. -/
theorem act (gone : cluster.Gone id) {act : Act} (unobstructive : act.Unobstructive) :
    (cluster.act act).Gone id where
  removed := (removedServices_act cluster act).mem gone.removed
  free := by
    cases act with
    | call call =>
      have used := failures_answer cluster call .inspectService
      rwa [gone.free, List.suffix_nil] at used
    | pushFrame frame => exact gone.free
    | addContainer id behavior => exact gone.free
    | failNext operation error =>
      have other : Operation.inspectService ≠ operation := Ne.symm unobstructive
      simp only [ScriptedCluster.act, failNext, other, ↓reduceIte, gone.free]

/-- An inspection of it finds nothing, and changes nothing. -/
theorem inspected (gone : cluster.Gone id) {answer : Option (Call.inspectService id).Answer}
    (answered : cluster.answer (.inspectService id) = (answer, after)) :
    answer = some (.error (missingService id)) ∧ cluster.Unchanged after := by
  have unseen := uninspected_of_removed gone.removed
  have ends := answer_ends cluster (.inspectService id)
  rw [answered] at ends unseen
  cases ends with
  | failed queued => exact absurd (queued.symm.trans gone.free) (List.cons_ne_nil _ _)
  | inspected => exact absurd rfl (unseen _)
  | missed => exact ⟨rfl, rfl, rfl, rfl, rfl⟩

end Gone

end ScriptedCluster

namespace Teardown

variable {id : String} {report : TeardownReport} {w after : World Rehearsal}

/-- What may follow a teardown: another one, or an act on the cluster. -/
inductive Sequel where
  | teardown (token : Token)
  | meanwhile (act : ScriptedCluster.Act)

/-- A sequel does not queue a failure for inspections. -/
def Sequel.Unobstructive : Sequel → Prop
  | .teardown _ => True
  | .meanwhile act => act.Unobstructive

/-- What comes of a sequel to a teardown of some service. -/
def follow (id : String) (w : World Rehearsal) : Sequel → World Rehearsal
  | .teardown token => (run Rehearsal.client token id w).2
  | .meanwhile act => { w with state := { w.state with cluster := w.state.cluster.act act } }

/-- **A teardown of what is gone.** It inspects the service, and does nothing else. -/
theorem run_of_gone (gone : w.state.cluster.Gone id) (token : Token) :
    ∃ after, run Rehearsal.client token id w = (some (.ok nothing), after) ∧
      w.state.cluster.Unchanged after.state.cluster := by
  have prompt : (Call.inspectService id).operation ≠ .waitContainerRemoved := nofun
  obtain ⟨answer, after, called, answered⟩ := call_answered prompt w
  obtain ⟨missing, unchanged⟩ := gone.inspected answered
  cases missing
  refine ⟨after, ?_, unchanged⟩
  simp only [run, dialogue, play, called]
  rfl

/-- **A teardown that has removed its service.** -/
theorem gone_of_run {token : Token}
    (ran : run Rehearsal.client token id w = (some (.ok report), after))
    (removed : report.serviceRemoved = true) : after.state.cluster.Gone id := by
  obtain ⟨result, last, containers, log, ran', answers, course⟩ := run_answers token id w
  rw [ran] at ran'
  cases ran'
  obtain ⟨service, inspected, -⟩ := course.found removed
  refine ⟨?_, answers.failures_of_ok inspected⟩
  rw [answers.removedServices_eq, course.removedServices_eq, if_pos removed]
  exact List.mem_append_right _ (List.mem_singleton_self id)

/-- It stays gone through all that follows. -/
theorem gone_of_follow (gone : w.state.cluster.Gone id) {sequels : List Sequel}
    (unobstructive : ∀ sequel ∈ sequels, sequel.Unobstructive) :
    (sequels.foldl (follow id) w).state.cluster.Gone id := by
  induction sequels generalizing w with
  | nil => exact gone
  | cons sequel rest ih =>
    obtain ⟨first, others⟩ := List.forall_mem_cons.mp unobstructive
    refine ih ?_ others
    cases sequel with
    | teardown token =>
      obtain ⟨after, ran, unchanged⟩ := run_of_gone gone token
      rw [follow, ran]
      exact gone.unchanged unchanged
    | meanwhile act => exact gone.act first

/-- **A teardown is idempotent.** Let a teardown have removed its service. Whatever happens then,
further teardowns of the service included, unless a failure is queued for inspections, the next
teardown reports that there was nothing to be removed. It removes no service and no container,
whether on call or by waiting for it, and uses up no failure. -/
theorem run_idempotent {first : Token}
    (ran : run Rehearsal.client first id w = (some (.ok report), after))
    (removed : report.serviceRemoved = true) {sequels : List Sequel}
    (unobstructive : ∀ sequel ∈ sequels, sequel.Unobstructive) (token : Token) :
    ∃ last, run Rehearsal.client token id (sequels.foldl (follow id) after) =
        (some (.ok nothing), last) ∧
      (sequels.foldl (follow id) after).state.cluster.Unchanged last.state.cluster :=
  run_of_gone (gone_of_follow (gone_of_run ran removed) unobstructive) token

/-- A service whose task is in a container that lingers. -/
private def occupied : Frame :=
  ⟨some ⟨"web", "web", .replicated (some 1), none, some (.ofSeconds 5)⟩,
    [⟨"a", "web", 0, "", .known .running, .known .running, some "ca", ""⟩], []⟩

private def occupancy : World Rehearsal :=
  ⟨0, .instant ((ScriptedCluster.ofFrames [occupied]).addContainer "ca" .lingers), []⟩

/-- The service is shown again, and its container comes back. -/
private def revival : List Sequel :=
  [.meanwhile (.pushFrame occupied), .meanwhile (.addContainer "ca" .lingers), .teardown .never]

/-- The service and its container come back in another frame, and the next teardown still finds
nothing. -/
theorem run_idempotent_revived :
    ∃ after last, run Rehearsal.client .never "web" occupancy =
        (some (.ok ⟨true, ["ca"]⟩), after) ∧
      (∀ sequel ∈ revival, sequel.Unobstructive) ∧
      run Rehearsal.client ⟨some 0⟩ "web" (revival.foldl (follow "web") after) =
        (some (.ok nothing), last) ∧
      last.state.cluster.container? "ca" = some .lingers := by
  have unobstructive : ∀ sequel ∈ revival, sequel.Unobstructive := by
    simp [revival, Sequel.Unobstructive, ScriptedCluster.Act.Unobstructive]
  have ran : run Rehearsal.client .never "web" occupancy = (some (.ok ⟨true, ["ca"]⟩), _) := rfl
  obtain ⟨last, again, unchanged⟩ := run_idempotent ran rfl unobstructive ⟨some 0⟩
  refine ⟨_, last, ran, unobstructive, again, ?_⟩
  rw [ScriptedCluster.container?, unchanged.containers]
  rfl

end Teardown

end ReplicaWatch
