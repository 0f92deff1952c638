import ReplicaWatch.Proofs.Clock.Logging
import ReplicaWatch.Proofs.Cluster.Lifetime
import ReplicaWatch.Proofs.Cluster.Reading

/-! # What a scripted cluster holds

A scripted cluster holds the services of its script that were not removed, and its containers
(`ScriptedCluster.Holds`). A call adds nothing to them, and takes away no more than what it names;
a removal that no queued failure stands in the way of is answered according to what is held
(`ScriptedCluster.RemovalEnds`).

The same is said of the calls that a cluster answers one after another, whoever makes them
(`ScriptedCluster.Answers`): an object is removed at most once (`Answers.removes_once`), it is gone
after a removal that succeeded or came too late (`Answers.not_holds`), and a container that no call
names stays what it was (`Answers.container?_eq`).
-/

namespace ReplicaWatch

/-- What a call can remove. -/
inductive Object where
  | service (id : String)
  | container (id : String)

namespace Call

/-- The object that a call is to remove. -/
def removal? : Call → Option Object
  | .removeService id => some (.service id)
  | .removeContainer id _ => some (.container id)
  | _ => none

/-- The container that a call may change. -/
def container? : Call → Option String
  | .removeContainer id _ => some id
  | .waitContainerRemoved id => some id
  | _ => none

namespace Entry

/-- The entry tells that an object was removed. -/
def Removes (object : Object) (entry : Entry) : Prop :=
  entry.1.removal? = some object ∧ entry.Succeeded

/-- The call was answered, and if with an error, then with one that means that something is gone. -/
def Tolerable (entry : Entry) : Prop :=
  ∃ answer, entry.2 = some answer ∧ ∀ error, answer = .error error → error.isAlreadyGone = true

/-- The service whose removal succeeded. -/
def removedService? : Entry → Option String
  | ⟨.removeService id, some (.ok ())⟩ => some id
  | _ => none

end Entry

end Call

namespace ScriptedCluster

variable {id : String} {object : Object} {call : Call}
  {cluster before middle after first second third : ScriptedCluster}
  {entries others : List Call.Entry} {entry : Call.Entry}

/-- The object is there to be removed. -/
def Holds (cluster : ScriptedCluster) : Object → Prop
  | .service id => cluster.knows id = true ∧ id ∉ cluster.removedServices
  | .container id => cluster.container? id ≠ none

/-- No failure that is queued for a kind of call claims that something is gone. -/
def Plain (cluster : ScriptedCluster) (operation : Operation) : Prop :=
  ∀ error ∈ cluster.failures operation, error.isAlreadyGone = false

/-- A cluster stays plain when a failure is prepared that does not claim that something is gone. -/
theorem Plain.failNext {operation other : Operation} {error : ClusterError}
    (plain : cluster.Plain operation) (fatal : error.isAlreadyGone = false) :
    (cluster.failNext other error).Plain operation := by
  intro queued member
  dsimp only [ScriptedCluster.failNext] at member
  split at member
  · rcases List.mem_append.mp member with earlier | last
    · exact plain queued earlier
    · rwa [List.mem_singleton.mp last]
  · exact plain queued member

/-- A container is not found just when the cluster does not hold it. -/
theorem container?_eq_none_iff : cluster.container? id = none ↔ ¬cluster.Holds (.container id) :=
  Decidable.not_not.symm

section Answer

/-- Forgetting a container leaves all others. -/
theorem container?_withoutContainer (cluster : ScriptedCluster) (id other : String) :
    (cluster.withoutContainer id).container? other =
      if other = id then none else cluster.container? other := by
  simp only [container?, withoutContainer]
  induction cluster.containers with
  | nil => simp
  | cons head rest ih =>
    obtain ⟨name, behavior⟩ := head
    by_cases own : name = id
    · subst own
      rw [List.filter_cons_of_neg (by simp), ih]
      by_cases same : other = name
      · simp only [same, ↓reduceIte]
      · have different : (other == name) = false := beq_eq_false_iff_ne.mpr same
        simp only [same, ↓reduceIte, List.lookup_cons, different]
    · rw [List.filter_cons_of_pos (by simpa using own), List.lookup_cons, List.lookup_cons, ih]
      by_cases same : other = name
      · subst same
        simp [own]
      · have different : (other == name) = false := beq_eq_false_iff_ne.mpr same
        simp only [different]

/-- A call leaves the containers that it does not name. -/
theorem container?_answer (cluster : ScriptedCluster) (other : call.container? ≠ some id) :
    (cluster.answer call).2.container? id = cluster.container? id := by
  have ends := answer_ends cluster call
  generalize cluster.answer call = answered at ends ⊢
  cases ends with
  | containerRemoved =>
    apply (container?_withoutContainer _ _ _).trans
    exact if_neg fun same => other (congrArg some same.symm)
  | exited =>
    apply (container?_withoutContainer _ _ _).trans
    exact if_neg fun same => other (congrArg some same.symm)
  | _ => rfl

/-- A call that names no container leaves all of them. -/
theorem containers_answer (cluster : ScriptedCluster) (none : call.container? = none) :
    (cluster.answer call).2.containers = cluster.containers := by
  have ends := answer_ends cluster call
  generalize cluster.answer call = answered at ends ⊢
  cases ends with
  | containerRemoved => cases none
  | exited => cases none
  | _ => rfl

/-- No call changes the script. -/
theorem frames_answer (cluster : ScriptedCluster) (call : Call) :
    (cluster.answer call).2.frames = cluster.frames := by
  have ends := answer_ends cluster call
  generalize cluster.answer call = answered at ends ⊢
  cases ends <;> rfl

/-- A call only takes failures from the front of a queue. -/
theorem failures_answer (cluster : ScriptedCluster) (call : Call) (operation : Operation) :
    (cluster.answer call).2.failures operation <:+ cluster.failures operation := by
  have ends := answer_ends cluster call
  generalize cluster.answer call = answered at ends ⊢
  cases ends with
  | failed => exact withoutFailure_failures_suffix cluster _ operation
  | _ => exact List.suffix_rfl

/-- A call adds nothing to what is held. -/
theorem holds_of_answer (held : (cluster.answer call).2.Holds object) : cluster.Holds object := by
  cases object with
  | service id =>
    obtain ⟨known, unremoved⟩ := held
    refine ⟨?_, ?_⟩
    · rwa [knows, frames_answer] at known
    · intro removed
      exact unremoved ((removedServices_act cluster (.call call)).mem removed)
  | container id =>
    by_cases named : call.container? = some id
    · intro absent
      apply held
      have ends := answer_ends cluster call
      generalize cluster.answer call = answered at ends ⊢
      cases ends with
      | containerRemoved =>
        apply (container?_withoutContainer _ _ _).trans
        split
        · rfl
        · exact absent
      | exited =>
        apply (container?_withoutContainer _ _ _).trans
        split
        · rfl
        · exact absent
      | _ => exact absent
    · rwa [Holds, container?_answer cluster named] at held

/-- The ways in which a removal is answered. -/
inductive RemovalEnds (cluster : ScriptedCluster) (object : Object) (call : Call) :
    Option call.Answer × ScriptedCluster → Prop where
  | failed {error : ClusterError} {after : ScriptedCluster}
      (queued : error ∈ cluster.failures call.operation) :
      RemovalEnds cluster object call (some (.error error), after)
  | removed {success : call.Success} {after : ScriptedCluster} (held : cluster.Holds object)
      (gone : ¬after.Holds object) :
      RemovalEnds cluster object call (some (.ok success), after)
  | missed {error : ClusterError} {after : ScriptedCluster} (absent : ¬after.Holds object)
      (gone : error.isAlreadyGone = true) :
      RemovalEnds cluster object call (some (.error error), after)

/-- **One removal.** How a removal of an object ends, by what the cluster holds and what is
prepared. -/
theorem removal_ends (cluster : ScriptedCluster) (removal : call.removal? = some object) :
    RemovalEnds cluster object call (cluster.answer call) := by
  have ends := answer_ends cluster call
  generalize cluster.answer call = answered at ends ⊢
  cases ends with
  | failed queued => exact .failed (queued ▸ List.mem_cons_self)
  | @removed id free known unremoved =>
    cases removal
    refine .removed (And.intro known unremoved) ?_
    rintro ⟨-, still⟩
    exact still (List.mem_append_right _ (List.mem_singleton_self id))
  | unremovable free gone =>
    cases removal
    refine .missed ?_ rfl
    rintro ⟨known, still⟩
    exact still (gone known)
  | @containerRemoved id _ behavior free present =>
    cases removal
    refine .removed ?_ ?_
    · intro absent
      rw [present] at absent
      cases absent
    · intro still
      apply still
      exact (container?_withoutContainer _ _ _).trans (if_pos rfl)
  | containerMissing free absent =>
    cases removal
    exact .missed (fun held => held absent) rfl
  | _ => cases removal

/-- What a call removes was there before it, and is not there after it. -/
theorem holds_of_removes {answer : Option call.Answer}
    (answered : cluster.answer call = (answer, after))
    (removes : Call.Entry.Removes object ⟨call, answer⟩) :
    cluster.Holds object ∧ ¬after.Holds object := by
  obtain ⟨removal, success, replied⟩ := removes
  have ends := removal_ends cluster removal
  rw [answered] at ends
  cases ends with
  | failed => cases replied
  | removed held gone => exact ⟨held, gone⟩
  | missed => cases replied

/-- An object is gone after a removal that succeeded or came too late. -/
theorem not_holds_of_tolerable {answer : Option call.Answer}
    (answered : cluster.answer call = (answer, after)) (removal : call.removal? = some object)
    (plain : cluster.Plain call.operation) (tolerable : Call.Entry.Tolerable ⟨call, answer⟩) :
    ¬after.Holds object := by
  obtain ⟨settled, replied, tolerated⟩ := tolerable
  have ends := removal_ends cluster removal
  rw [answered] at ends
  cases ends with
  | @failed error _ queued =>
    cases replied
    have gone := tolerated error rfl
    rw [plain error queued] at gone
    cases gone
  | removed _ gone => exact gone
  | missed absent _ => exact absent

/-- Where no failure is queued, an error means that something is gone, and listings succeed. -/
theorem error_of_free {error : ClusterError} (free : cluster.failures call.operation = [])
    (failed : (cluster.answer call).1 = some (.error error)) :
    error.isAlreadyGone = true ∧ call.operation ≠ .listTasks := by
  have ends := answer_ends cluster call
  generalize cluster.answer call = answered at ends failed
  cases ends with
  | failed queued =>
    rw [free] at queued
    cases queued
  | missed => cases failed; exact ⟨rfl, nofun⟩
  | unremovable => cases failed; exact ⟨rfl, nofun⟩
  | containerMissing => cases failed; exact ⟨rfl, nofun⟩
  | unawaited => cases failed; exact ⟨rfl, nofun⟩
  | _ => cases failed

/-- A removal of a service that succeeds adds it to the removed ones, and nothing else does. -/
theorem removedServices_entry {answer : Option call.Answer}
    (answered : cluster.answer call = (answer, after)) :
    after.removedServices =
      cluster.removedServices ++ (Call.Entry.removedService? ⟨call, answer⟩).toList := by
  have ends := answer_ends cluster call
  rw [answered] at ends
  cases ends with
  | failed => cases call <;> exact (List.append_nil _).symm
  | removed => rfl
  | _ => exact (List.append_nil _).symm

end Answer

/-- A cluster answers some calls one after another. -/
inductive Answers : ScriptedCluster → List Call.Entry → ScriptedCluster → Prop where
  | nil (cluster : ScriptedCluster) : Answers cluster [] cluster
  | cons {cluster middle after : ScriptedCluster} {call : Call} {answer : Option call.Answer}
      {entries : List Call.Entry} (answered : cluster.answer call = (answer, middle))
      (rest : Answers middle entries after) : Answers cluster (⟨call, answer⟩ :: entries) after

namespace Answers

/-- One call that is answered. -/
theorem single {answer : Option call.Answer} (answered : before.answer call = (answer, after)) :
    Answers before [⟨call, answer⟩] after :=
  .cons answered (.nil after)

/-- Answered calls follow one another. -/
theorem append (former : Answers first entries second) (latter : Answers second others third) :
    Answers first (entries ++ others) third := by
  induction former with
  | nil => exact latter
  | cons answered _ ih => exact .cons answered (ih latter)

/-- Calls only take failures from the fronts of the queues. -/
theorem failures (answers : Answers before entries after) (operation : Operation) :
    after.failures operation <:+ before.failures operation := by
  induction answers with
  | nil => exact List.suffix_rfl
  | @cons cluster _ _ call _ _ answered _ ih =>
    have step := failures_answer cluster call operation
    rw [answered] at step
    exact ih.trans step

/-- Calls prepare no failures. -/
theorem plain {operation : Operation} (answers : Answers before entries after)
    (plain : before.Plain operation) : after.Plain operation :=
  fun error queued => plain error ((answers.failures operation).mem queued)

/-- Calls bring back nothing that the cluster does not hold. -/
theorem holds (answers : Answers before entries after) (held : after.Holds object) :
    before.Holds object := by
  induction answers with
  | nil => exact held
  | cons answered _ ih =>
    apply holds_of_answer
    rw [answered]
    exact ih held

/-- Calls leave the script as it is. -/
theorem frames_eq (answers : Answers before entries after) : after.frames = before.frames := by
  induction answers with
  | nil => rfl
  | @cons cluster _ _ call _ _ answered _ ih =>
    have step := frames_answer cluster call
    rw [answered] at step
    exact ih.trans step

/-- Behind a removal that was answered tolerably, the object is gone. -/
theorem not_holds (answers : Answers before entries after) (member : entry ∈ entries)
    (removal : entry.1.removal? = some object) (plain : before.Plain entry.1.operation)
    (tolerable : entry.Tolerable) : ¬after.Holds object := by
  induction answers with
  | nil => cases member
  | cons answered rest ih =>
    rcases List.mem_cons.mp member with rfl | later
    · intro held
      exact not_holds_of_tolerable answered removal plain tolerable (rest.holds held)
    · exact ih later ((single answered).plain plain)

/-- What the cluster does not hold, no call removes. -/
theorem not_removes (answers : Answers before entries after) (absent : ¬before.Holds object) :
    ∀ entry ∈ entries, ¬entry.Removes object := by
  induction answers with
  | nil =>
    intro entry member
    cases member
  | cons answered _ ih =>
    intro entry member removes
    rcases List.mem_cons.mp member with rfl | later
    · exact absent (holds_of_removes answered removes).1
    · exact ih (fun held => absent ((single answered).holds held)) entry later removes

/-- **An object is removed at most once.** -/
theorem removes_once (answers : Answers before entries after) :
    entries.Pairwise fun earlier later =>
      ∀ object, earlier.Removes object → ¬later.Removes object := by
  induction answers with
  | nil => exact .nil
  | cons answered rest ih =>
    refine List.pairwise_cons.mpr ⟨?_, ih⟩
    intro entry member object removes
    exact rest.not_removes (holds_of_removes answered removes).2 entry member

/-- Calls leave a container that none of them names. -/
theorem container?_eq (answers : Answers before entries after)
    (unnamed : ∀ entry ∈ entries, entry.1.container? ≠ some id) :
    after.container? id = before.container? id := by
  induction answers with
  | nil => rfl
  | @cons cluster _ _ call _ _ answered _ ih =>
    have step := container?_answer cluster (unnamed _ List.mem_cons_self)
    rw [answered] at step
    exact (ih fun entry member => unnamed entry (List.mem_cons_of_mem _ member)).trans step

/-- Calls that name no container leave all of them. -/
theorem containers_eq (answers : Answers before entries after)
    (unnamed : ∀ entry ∈ entries, entry.1.container? = none) :
    after.containers = before.containers := by
  induction answers with
  | nil => rfl
  | @cons cluster _ _ call _ _ answered _ ih =>
    have step := containers_answer cluster (unnamed _ List.mem_cons_self)
    rw [answered] at step
    exact (ih fun entry member => unnamed entry (List.mem_cons_of_mem _ member)).trans step

/-- The removed services are those that were removed before, and those whose removal succeeded. -/
theorem removedServices_eq (answers : Answers before entries after) :
    after.removedServices =
      before.removedServices ++ entries.filterMap Call.Entry.removedService? := by
  induction answers with
  | nil => exact (List.append_nil _).symm
  | @cons cluster _ _ call answer _ answered _ ih =>
    rw [ih, removedServices_entry answered, List.append_assoc]
    congr 1
    cases told : Call.Entry.removedService? ⟨call, answer⟩ with
    | none => rw [List.filterMap_cons_none told]; rfl
    | some removed => rw [List.filterMap_cons_some told]; rfl

/-- Where no failure is prepared, a call fails only because something is gone already, and no
listing fails. -/
theorem error_of_free {error : ClusterError} (answers : Answers before entries after)
    (free : ∀ operation, before.failures operation = [])
    (failed : (⟨call, some (.error error)⟩ : Call.Entry) ∈ entries) :
    error.isAlreadyGone = true ∧ call.operation ≠ .listTasks := by
  induction answers with
  | nil => cases failed
  | @cons cluster middle _ _ _ _ answered _ ih =>
    rcases List.mem_cons.mp failed with same | later
    · cases same
      apply ScriptedCluster.error_of_free (free _)
      rw [answered]
    · refine ih (fun operation => ?_) later
      have used := (single answered).failures operation
      rwa [free, List.suffix_nil] at used

end Answers

end ScriptedCluster

end ReplicaWatch
