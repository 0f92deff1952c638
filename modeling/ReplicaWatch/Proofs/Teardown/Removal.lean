import ReplicaWatch.Proofs.Clock.Rehearsing
import ReplicaWatch.Proofs.Cluster.Lifetime
import ReplicaWatch.Proofs.Teardown.Play

/-! # Tearing down a service that is there

A scripted cluster serves a service when every frame shows it, it was not removed, and no
queued failure claims that something is gone (`ScriptedCluster.Serves`). A teardown over such
a cluster always has a result, and a result that is not an error means that the service is
among the removed ones (`Teardown.run_removes`).
-/

namespace ReplicaWatch

namespace ScriptedCluster

variable {id : String} {cluster after : ScriptedCluster}

/-- The cluster holds a service, and no queued failure tells otherwise. -/
structure Serves (id : String) (cluster : ScriptedCluster) : Prop where
  scripted : cluster.frames ≠ []
  shown : ∀ frame ∈ cluster.frames, ∃ service, frame.service = some service ∧ service.id = id
  plain : ∀ operation, ∀ error ∈ cluster.failures operation, error.isAlreadyGone = false
  unremoved : id ∉ cluster.removedServices

/-- Every inspection of a script that is not empty shows one of its frames. -/
theorem currentFrame?_mem (scripted : cluster.frames ≠ []) :
    ∃ frame ∈ cluster.frames, cluster.currentFrame? = some frame := by
  unfold currentFrame?
  split
  · next frame found => exact ⟨frame, List.mem_of_getElem? found, rfl⟩
  · exact ⟨_, List.getLast_mem scripted, List.getLast?_eq_some_getLast scripted⟩

namespace Serves

/-- A cluster that was only looked at still serves. -/
theorem untouched (serves : cluster.Serves id) (left : cluster.Untouched after) :
    after.Serves id where
  scripted := by
    rw [left.frames]
    exact serves.scripted
  shown := by
    rw [left.frames]
    exact serves.shown
  plain operation error queued :=
    serves.plain operation error ((left.failures operation).mem queued)
  unremoved := by
    rw [left.removedServices]
    exact serves.unremoved

/-- Calls that only read keep the service served. -/
theorem read (serves : cluster.Serves id) {call : Call} {answer : Option call.Answer}
    (reads : call.operation.isRead = true) (answered : cluster.answer call = (answer, after)) :
    after.Serves id := by
  have left := answer_untouched reads cluster
  rw [answered] at left
  exact serves.untouched left

theorem advanced (serves : cluster.Serves id) : cluster.advanced.Serves id :=
  ⟨serves.scripted, serves.shown, serves.plain, serves.unremoved⟩

/-- A failure that was queued does not claim that something is gone. -/
theorem plain_head (serves : cluster.Serves id) {operation : Operation} {error : ClusterError}
    {rest : List ClusterError} (queued : cluster.failures operation = error :: rest) :
    error.isAlreadyGone = false :=
  serves.plain operation error (queued ▸ List.mem_cons_self)

/-- A service that is served is found. -/
theorem service?_isSome (serves : cluster.Serves id) : (cluster.service? id).isSome := by
  obtain ⟨frame, member, current⟩ := currentFrame?_mem serves.scripted
  obtain ⟨service, held, own⟩ := serves.shown frame member
  have present : ¬cluster.removedServices.contains id = true := by
    simpa using serves.unremoved
  rw [service?, if_neg present, current]
  simp [held, own]

/-- And it is known, so that it can be removed. -/
theorem knows (serves : cluster.Serves id) : cluster.knows id = true := by
  obtain ⟨frame, member, -⟩ := currentFrame?_mem serves.scripted
  obtain ⟨service, held, own⟩ := serves.shown frame member
  refine List.any_eq_true.mpr ⟨frame, member, ?_⟩
  simp [held, own]

/-- An inspection fails for no other reason than a queued failure. -/
theorem inspected (serves : cluster.Serves id)
    {answer : (Call.inspectService id).Answer}
    (answered : cluster.answer (.inspectService id) = (some answer, after)) :
    (∃ service, answer = .ok service) ∨ ∃ error, answer = .error error ∧ error.isAlreadyGone = false := by
  have ends := answer_ends cluster (.inspectService id)
  rw [answered] at ends
  cases ends with
  | failed queued => exact .inr ⟨_, rfl, serves.plain_head queued⟩
  | inspected => exact .inl ⟨_, rfl⟩
  | missed _ missing =>
    have found := serves.advanced.service?_isSome
    rw [missing] at found
    cases found

/-- A removal fails for no other reason than a queued failure, and else removes. -/
theorem removed (serves : cluster.Serves id) {answer : (Call.removeService id).Answer}
    (answered : cluster.answer (.removeService id) = (some answer, after)) :
    answer = .ok () ∧ id ∈ after.removedServices ∨
      ∃ error, answer = .error error ∧ error.isAlreadyGone = false := by
  have ends := answer_ends cluster (.removeService id)
  rw [answered] at ends
  cases ends with
  | failed queued => exact .inr ⟨_, rfl, serves.plain_head queued⟩
  | removed => exact .inl ⟨rfl, List.mem_append_right _ (List.mem_singleton_self id)⟩
  | unremovable _ gone => exact absurd (gone serves.knows) serves.unremoved

end Serves

end ScriptedCluster

namespace Teardown

variable {id : String} {token : Token} {w : World Rehearsal}

/-- Reaping removes no service. -/
theorem reaping_law (token : Token) :
    MoveLaw Rehearsal.client token Move.Reaps fun before after =>
      after.state.cluster.removedServices = before.state.cluster.removedServices where
  refl _ := rfl
  trans first second := second.trans first
  call w reaps := by
    cases reaps with
    | remove container =>
      exact w.state.cluster.removedServices_of_other (.removeContainer container .forced) nofun
  grace {container _} deadline w _ := by
    rcases Rehearsal.cluster_race deadline token (.waitContainerRemoved container) w with
      same | answered
    · rw [same]
    · rw [answered]
      exact w.state.cluster.removedServices_of_other (.waitContainerRemoved container) nofun

/-- In a rehearsal a call that does not wait for a container is answered. -/
theorem call_answered {request : Call} (prompt : request.operation ≠ .waitContainerRemoved)
    (w : World Rehearsal) :
    ∃ answer after, w.call Rehearsal.client request = (some answer, after) ∧
      w.state.cluster.answer request = (some answer, after.state.cluster) := by
  obtain ⟨answer, next, answered⟩ := ScriptedCluster.answer_isSome prompt w.state.cluster
  have called := Rehearsal.cluster_call request w
  rw [answered, Prod.mk.injEq] at called
  exact ⟨answer, _, Prod.ext called.1 rfl, answered.trans (Prod.ext rfl called.2.symm)⟩

/-- Whatever becomes of a reaping, it ends, and no service is removed by it. -/
theorem reap_ends (token : Token) (grace : Duration) (containers : List String)
    (report : TeardownReport) (w : World Rehearsal) :
    ∃ result after, play Rehearsal.client token (reap grace containers report) w =
        (some result, after) ∧
      after.state.cluster.removedServices = w.state.cluster.removedServices := by
  have asks := reap_asks grace containers report
  have upheld := play_upholds (reaping_law token) asks w
  have answers {request : Call} (w : World Rehearsal) (reaps : Move.Reaps (.call request)) :
      (w.call Rehearsal.client request).1.isSome := by
    cases reaps with
    | remove container =>
      have prompt : (Call.removeContainer container .forced).operation ≠
        .waitContainerRemoved := nofun
      obtain ⟨answer, after, called, -⟩ := call_answered prompt w
      rw [called]
      rfl
  obtain ⟨result, some⟩ := Option.isSome_iff_exists.mp
    (play_isSome answers asks w : (play Rehearsal.client token _ w).1.isSome)
  exact ⟨result, _, Prod.ext some rfl, upheld⟩

/-- Whatever becomes of a removal, it ends, and without an error the service is gone. -/
theorem removal_removes (serves : w.state.cluster.Serves id) (grace : Duration)
    (containers : List String) :
    ∃ result after, play Rehearsal.client token (removal id grace containers) w =
        (some result, after) ∧
      ∀ report, result = .ok report → id ∈ after.state.cluster.removedServices := by
  have prompt : (Call.removeService id).operation ≠ .waitContainerRemoved := nofun
  obtain ⟨answer, called, moved, answered⟩ := call_answered prompt w
  unfold removal
  simp only [play, moved]
  rcases serves.removed answered with ⟨rfl, gone⟩ | ⟨error, rfl, plain⟩
  · obtain ⟨result, after, played, kept⟩ := reap_ends token grace containers ⟨true, []⟩ called
    exact ⟨result, after, played, fun _ _ => kept ▸ gone⟩
  · simp only [plain, Bool.false_eq_true, ↓reduceIte, play]
    exact ⟨_, _, rfl, nofun⟩

/-- **A teardown removes.** Over a cluster that serves a service, a teardown of it ends, and
when it ends without an error the service is gone. -/
theorem run_removes (serves : w.state.cluster.Serves id) (token : Token) :
    ∃ result after, run Rehearsal.client token id w = (some result, after) ∧
      ∀ report, result = .ok report → id ∈ after.state.cluster.removedServices := by
  have prompt : (Call.inspectService id).operation ≠ .waitContainerRemoved := nofun
  obtain ⟨answer, inspected, moved, answered⟩ := call_answered prompt w
  have serving : inspected.state.cluster.Serves id := serves.read rfl answered
  unfold run dialogue
  simp only [play, moved]
  rcases serves.inspected answered with ⟨service, rfl⟩ | ⟨error, rfl, plain⟩
  · cases graced : service.gracePeriod? with
    | none =>
      simp only [graced]
      exact removal_removes serving .zero []
    | some grace =>
      have prompt : (Call.listTasks (.all id)).operation ≠ .waitContainerRemoved := nofun
      obtain ⟨listing, listed, moved, answered⟩ := call_answered prompt inspected
      simp only [graced, play, moved]
      cases listing with
      | error error => exact ⟨_, _, rfl, nofun⟩
      | ok tasks => exact removal_removes (serving.read rfl answered) grace (liveContainers tasks)
  · simp only [plain, Bool.false_eq_true, ↓reduceIte, play]
    exact ⟨_, _, rfl, nofun⟩

end Teardown

end ReplicaWatch
