import ReplicaWatch.Proofs.Cluster.History

/-! # Removal of a service is final

A removal that succeeds is the only one of its service: no inspection finds the service again, and
no listing shows tasks of it, whatever frames the script goes on to. Calls that do not name the
service are answered as they would be without the removal. The runs with the removal and without it
go through clusters that differ in nothing but whether that service is removed
(`ScriptedCluster.AlikeBut`). The main result is `ScriptedCluster.removal_final`.
-/

namespace ReplicaWatch

/-- The service that a call names. -/
def Call.service? : Call → Option String
  | .listTasks filter => some filter.service
  | .inspectService id => some id
  | .removeService id => some id
  | _ => none

namespace ScriptedCluster

namespace Event

/-- The service that is named by the call that the event tells. -/
def service? : Event → Option String
  | .called entry _ => entry.1.service?
  | _ => none

/-- The event tells that the service was removed. -/
def RemovesService (id : String) : Event → Prop
  | .called entry _ => entry.Removes (.service id)
  | _ => False

/-- The event shows nothing of the service: an inspection does not find it, and a listing is empty,
unless an injected failure answers it. -/
def Misses (id : String) : Event → Prop
  | .called ⟨.inspectService name, answer⟩ _ =>
    name = id → ∀ service, answer ≠ some (.ok service)
  | .called ⟨.listTasks filter, answer⟩ injected =>
    filter.service = id →
      answer = some (.ok []) ∨ ∃ error, injected = some error ∧ answer = some (.error error)
  | _ => True

end Event

variable {id : String} {call : Call} {cluster other third : ScriptedCluster} {steps : List Act}

/-! ## What is told of a removed service -/

/-- Of a removed service no tasks are listed, unless a prepared failure is the answer. -/
theorem listing_of_removed {filter : TaskFilter}
    (removed : filter.service ∈ cluster.removedServices) :
    (cluster.answer (.listTasks filter)).1 = some (.ok []) ∨
      ∃ error, (cluster.failures .listTasks).head? = some error ∧
        (cluster.answer (.listTasks filter)).1 = some (.error error) := by
  have ends := answer_ends cluster (.listTasks filter)
  generalize cluster.answer (.listTasks filter) = answered at ends ⊢
  cases ends with
  | @failed _ error rest queued => exact .inr ⟨error, congrArg List.head? queued, rfl⟩
  | tasksListed =>
    left
    rw [tasksFor, if_pos (List.contains_iff_mem.mpr removed)]

/-- Whatever is done once a service is removed, nothing of it is found. -/
theorem misses_of_removed (removed : id ∈ cluster.removedServices) (step : Act) :
    (cluster.event step).Misses id := by
  cases step with
  | call call =>
    cases call with
    | inspectService name =>
      rintro rfl service
      exact uninspected_of_removed removed service
    | listTasks filter =>
      rintro rfl
      exact listing_of_removed removed
    | _ => trivial
  | _ => trivial

/-- A removed service is not removed again. -/
theorem not_removesService_of_removed (removed : id ∈ cluster.removedServices) (step : Act) :
    ¬(cluster.event step).RemovesService id := by
  intro removes
  cases step with
  | call call =>
    obtain ⟨⟨-, unremoved⟩, -⟩ := holds_of_removes (Prod.eta (cluster.answer call)).symm removes
    exact unremoved removed
  | _ => cases removes

/-- What removes a service has it noted as removed. -/
theorem removed_of_removesService {step : Act} (removes : (cluster.event step).RemovesService id) :
    id ∈ (cluster.act step).removedServices := by
  cases step with
  | call call =>
    obtain ⟨⟨known, -⟩, gone⟩ := holds_of_removes (Prod.eta (cluster.answer call)).symm removes
    by_contra unremoved
    refine gone ⟨?_, unremoved⟩
    rw [knows, frames_answer]
    exact known
  | _ => cases removes

/-- Behind a removal there is nothing to be told of the service. -/
theorem told_of_removed (removed : id ∈ cluster.removedServices) (steps : List Act) :
    ∀ event ∈ cluster.history steps, event.Misses id ∧ ¬event.RemovesService id := by
  induction steps generalizing cluster with
  | nil => exact List.forall_mem_nil _
  | cons step steps ih =>
    have kept := (removedServices_act cluster step).mem removed
    refine List.forall_mem_cons.mpr ⟨?_, ih kept⟩
    exact ⟨misses_of_removed removed step, not_removesService_of_removed removed step⟩

/-- Where a service is not removed, no removal of it has succeeded. -/
theorem not_removesService_of_unremoved (unremoved : id ∉ (cluster.acts steps).removedServices) :
    ∀ event ∈ cluster.history steps, ¬event.RemovesService id := by
  intro event member removes
  obtain ⟨former, latter, split⟩ := List.append_of_mem member
  obtain ⟨earlier, step, later, rfl, -, rfl⟩ := exists_acts_of_history split
  apply unremoved
  rw [acts_append]
  exact (removedServices_acts _ later).mem (removed_of_removesService removes)

/-! ## The run without the removal -/

/-- Two clusters differ at most in whether a service is removed, and in their journals. -/
structure AlikeBut (id : String) (cluster other : ScriptedCluster) : Prop where
  frames : other.frames = cluster.frames
  inspections : other.inspections = cluster.inspections
  containers : other.containers = cluster.containers
  removedContainers : other.removedContainers = cluster.removedContainers
  failures : other.failures = cluster.failures
  removedServices : ∀ name ≠ id, name ∈ other.removedServices ↔ name ∈ cluster.removedServices

namespace AlikeBut

theorem refl (id : String) (cluster : ScriptedCluster) : AlikeBut id cluster cluster :=
  ⟨rfl, rfl, rfl, rfl, rfl, fun _ _ => Iff.rfl⟩

theorem symm (alike : AlikeBut id cluster other) : AlikeBut id other cluster where
  frames := alike.frames.symm
  inspections := alike.inspections.symm
  containers := alike.containers.symm
  removedContainers := alike.removedContainers.symm
  failures := alike.failures.symm
  removedServices name different := (alike.removedServices name different).symm

/-- Two clusters that differ from a third one in nothing but a service differ in nothing else. -/
theorem trans (former : AlikeBut id cluster other) (latter : AlikeBut id other third) :
    AlikeBut id cluster third where
  frames := latter.frames.trans former.frames
  inspections := latter.inspections.trans former.inspections
  containers := latter.containers.trans former.containers
  removedContainers := latter.removedContainers.trans former.removedContainers
  failures := latter.failures.trans former.failures
  removedServices name different :=
    (latter.removedServices name different).trans (former.removedServices name different)

/-- The script is at the same frame. -/
theorem currentFrame?_eq (alike : AlikeBut id cluster other) :
    other.currentFrame? = cluster.currentFrame? := by
  rw [currentFrame?, currentFrame?, alike.frames, alike.inspections]

/-- The same other services are removed. -/
theorem contains_eq (alike : AlikeBut id cluster other) {name : String} (different : name ≠ id) :
    other.removedServices.contains name = cluster.removedServices.contains name := by
  rw [Bool.eq_iff_iff, List.contains_iff_mem, List.contains_iff_mem]
  exact alike.removedServices name different

/-- Other services are found alike. -/
theorem service?_eq (alike : AlikeBut id cluster other) {name : String} (different : name ≠ id) :
    other.service? name = cluster.service? name := by
  rw [service?, service?, alike.contains_eq different, alike.currentFrame?_eq]

/-- The difference stays when a call is noted. -/
theorem noting (alike : AlikeBut id cluster other) (call : Call) :
    AlikeBut id (cluster.noting call) (other.noting call) := { alike with }

/-- The difference stays when the script goes on. -/
theorem advanced (alike : AlikeBut id cluster other) :
    AlikeBut id cluster.advanced other.advanced :=
  { alike with inspections := congrArg Nat.succ alike.inspections }

/-- The difference stays when a failure is taken from a queue. -/
theorem withoutFailure (alike : AlikeBut id cluster other) (operation : Operation) :
    AlikeBut id (cluster.withoutFailure operation) (other.withoutFailure operation) :=
  { alike with failures := by simp only [ScriptedCluster.withoutFailure, alike.failures] }

/-- The difference stays when a container is forgotten. -/
theorem withoutContainer (alike : AlikeBut id cluster other) (name : String) :
    AlikeBut id (cluster.withoutContainer name) (other.withoutContainer name) :=
  { alike with containers := by simp only [ScriptedCluster.withoutContainer, alike.containers] }

/-- A removal of the service makes no other difference. -/
theorem of_removal (cluster : ScriptedCluster) (id : String) :
    AlikeBut id (cluster.perform (.removeService id)).2 cluster := by
  simp only [ScriptedCluster.perform]
  split
  · refine { refl id cluster with removedServices := fun name different => ?_ }
    simp only [List.mem_append, List.mem_singleton, different, or_false]
  · exact refl id cluster

/-- A call for which no failure is queued leaves clusters alike, and is answered alike unless it
names the service. -/
theorem perform (alike : AlikeBut id cluster other) (call : Call) :
    (call.service? ≠ some id → (other.perform call).1 = (cluster.perform call).1) ∧
      AlikeBut id (cluster.perform call).2 (other.perform call).2 := by
  cases call with
  | listTasks filter =>
    refine ⟨fun different => ?_, alike⟩
    simp only [ScriptedCluster.perform, tasksFor, alike.currentFrame?_eq,
      alike.contains_eq fun same => different (congrArg some same)]
  | listNodes =>
    refine ⟨fun _ => ?_, alike⟩
    simp only [ScriptedCluster.perform, nodes, alike.currentFrame?_eq]
  | inspectService name =>
    constructor
    · intro different
      have found := alike.advanced.service?_eq fun same => different (congrArg some same)
      simp only [ScriptedCluster.advanced] at found
      simp only [ScriptedCluster.perform, found]
      split <;> rfl
    · simp only [ScriptedCluster.perform]
      split <;> split <;> exact alike.advanced
  | removeService name =>
    have known : other.knows name = cluster.knows name := by rw [knows, knows, alike.frames]
    by_cases own : name = id
    · subst own
      -- One of the two may remove the service where the other finds it removed already.
      refine ⟨fun different => absurd rfl different, ?_⟩
      exact ((of_removal cluster name).trans alike).trans (of_removal other name).symm
    · simp only [ScriptedCluster.perform, known, alike.contains_eq own]
      split
      · refine ⟨fun _ => rfl, { alike with removedServices := fun other different => ?_ }⟩
        simp only [List.mem_append, alike.removedServices other different]
      · exact ⟨fun _ => rfl, alike⟩
  | removeContainer name options =>
    have same : other.container? name = cluster.container? name := by
      rw [container?, container?, alike.containers]
    simp only [ScriptedCluster.perform, same]
    split
    · exact ⟨fun _ => rfl, { alike.withoutContainer name with
        removedContainers := congrArg (· ++ [name]) alike.removedContainers }⟩
    · exact ⟨fun _ => rfl, alike⟩
  | waitContainerRemoved name =>
    have same : other.container? name = cluster.container? name := by
      rw [container?, container?, alike.containers]
    simp only [ScriptedCluster.perform, same]
    split
    · exact ⟨fun _ => rfl, alike.withoutContainer name⟩
    · exact ⟨fun _ => rfl, alike⟩
    · exact ⟨fun _ => rfl, alike⟩

/-- **One call.** A call that does not name the service is answered alike, and the difference stays.
-/
theorem answer (alike : AlikeBut id cluster other) (call : Call) :
    (call.service? ≠ some id → (other.answer call).1 = (cluster.answer call).1) ∧
      AlikeBut id (cluster.answer call).2 (other.answer call).2 := by
  unfold ScriptedCluster.answer
  rw [alike.failures]
  split
  · exact ⟨fun _ => rfl, (alike.noting call).withoutFailure call.operation⟩
  · exact (alike.noting call).perform call

end AlikeBut

/-- **One step.** Whatever does not concern the service ends alike, and the difference stays. -/
theorem AlikeBut.act (alike : AlikeBut id cluster other) (step : Act) :
    ((cluster.event step).service? ≠ some id → other.event step = cluster.event step) ∧
      AlikeBut id (cluster.act step) (other.act step) := by
  cases step with
  | call call =>
    obtain ⟨same, after⟩ := alike.answer call
    refine ⟨fun different => ?_, after⟩
    simp only [event, same different, alike.failures]
  | pushFrame frame =>
    exact ⟨fun _ => rfl, { alike with frames := congrArg (· ++ [frame]) alike.frames }⟩
  | addContainer name behavior =>
    refine ⟨fun _ => rfl, { alike with containers := ?_ }⟩
    simp only [ScriptedCluster.act, addContainer, alike.containers]
  | failNext operation error =>
    refine ⟨fun _ => rfl, { alike with failures := ?_ }⟩
    simp only [ScriptedCluster.act, failNext, alike.failures]

/-- **The run without the removal.** What does not name the service is told alike. -/
theorem AlikeBut.history (alike : AlikeBut id cluster other) (steps : List Act) :
    List.Forall₂ (fun event without => event.service? = some id ∨ event = without)
      (cluster.history steps) (other.history steps) := by
  induction steps generalizing cluster other with
  | nil => exact .nil
  | cons step steps ih =>
    obtain ⟨same, after⟩ := alike.act step
    refine .cons ?_ (ih after)
    by_cases named : (cluster.event step).service? = some id
    · exact .inl named
    · exact .inr (same named).symm

/-- A removal changes nothing but what is known of the service. -/
theorem alikeBut_of_removed (removed : (cluster.answer (.removeService id)).1 = some (.ok ())) :
    AlikeBut id (cluster.answer (.removeService id)).2 cluster := by
  unfold answer at removed ⊢
  split at removed
  · cases removed
  · exact (AlikeBut.of_removal _ id).trans ⟨rfl, rfl, rfl, rfl, rfl, fun _ _ => Iff.rfl⟩

/-- A removal that fails removes nothing. -/
theorem removedServices_of_error {error : ClusterError}
    (failed : (cluster.answer (.removeService id)).1 = some (.error error)) :
    (cluster.answer (.removeService id)).2.removedServices = cluster.removedServices := by
  have ends := answer_ends cluster (.removeService id)
  generalize cluster.answer (.removeService id) = answered at ends failed ⊢
  cases ends with
  | removed => cases failed
  | _ => rfl

/-- **Removal is final.** Let a removal of a service succeed at some point of a run. No other
removal of it succeeds in the run, before or after; after it no inspection finds the service, and a
listing of its tasks is empty unless an injected failure answers it; and every other event after it,
which are those that name other services among them, is told just as if the removal had been left
out. A removal that is answered with an error leaves the removed services as they are. -/
theorem removal_final (cluster : ScriptedCluster) (former latter : List Act) (id : String) :
    (((cluster.acts former).answer (.removeService id)).1 = some (.ok ()) →
      (∀ event ∈ cluster.history former, ¬event.RemovesService id) ∧
      (∀ event ∈ ((cluster.acts former).act (.call (.removeService id))).history latter,
        event.Misses id ∧ ¬event.RemovesService id) ∧
      List.Forall₂ (fun event without => event.service? = some id ∨ event = without)
        (((cluster.acts former).act (.call (.removeService id))).history latter)
        ((cluster.acts former).history latter)) ∧
    ∀ error, ((cluster.acts former).answer (.removeService id)).1 = some (.error error) →
      ((cluster.acts former).act (.call (.removeService id))).removedServices =
        (cluster.acts former).removedServices := by
  constructor
  · intro removed
    have removes : ((cluster.acts former).event (.call (.removeService id))).RemovesService id :=
      ⟨rfl, (), removed⟩
    refine ⟨not_removesService_of_unremoved fun already => ?_,
      told_of_removed (removed_of_removesService removes) latter,
      (alikeBut_of_removed removed).history latter⟩
    exact not_removesService_of_removed already _ removes
  · intro error failed
    exact removedServices_of_error failed

/-- A frame with a service and its task. -/
private def site (id : String) : Frame :=
  ⟨some ⟨id, id, .replicated (some 1), none, none⟩,
    [⟨"a", id, 1, "", .known .running, .known .running, none, ""⟩], []⟩

/-- One service is shown, then another, and then the first one again. -/
private def alternating : ScriptedCluster := ofFrames [site "web", site "db", site "web"]

/-- What happens behind a removal of the first service. -/
private def aftermath : List Act :=
  [.call (.inspectService "db"), .call (.listTasks (.all "db")), .call (.inspectService "web"),
    .call (.listTasks (.all "web")), .call (.removeService "web")]

/-- A removed service is shown again by the script, and is not found. -/
theorem removal_final_reappearing :
    ((alternating.acts [.call (.inspectService "web")]).answer (.removeService "web")).1 =
        some (.ok ()) ∧
      (∀ event ∈ ((alternating.acts [.call (.inspectService "web")]).act
          (.call (.removeService "web"))).history aftermath,
        event.Misses "web" ∧ ¬event.RemovesService "web") ∧
      ((alternating.acts [.call (.inspectService "web")]).history aftermath).head? =
        some (.called ⟨.inspectService "db",
          some (.ok ⟨"db", "db", .replicated (some 1), none, none⟩)⟩ none) := by
  have removed : ((alternating.acts [.call (.inspectService "web")]).answer
      (.removeService "web")).1 = some (.ok ()) := rfl
  obtain ⟨final, -⟩ := removal_final alternating [.call (.inspectService "web")] aftermath "web"
  exact ⟨removed, (final removed).2.1, rfl⟩

end ScriptedCluster

end ReplicaWatch
