import ReplicaWatch.Proofs.Cluster.History
import ReplicaWatch.Proofs.Since

/-! # Containers are conserved

A container comes into a scripted cluster by its registration, and goes when a removal of it or a
wait for it succeeds. So it exists just when it was registered and has not been consumed since
(`ScriptedCluster.container?_acts_iff`), no registration is consumed twice, and the log of removed
containers tells the removals that succeeded (`ScriptedCluster.containers_conserved`).
-/

namespace ReplicaWatch.ScriptedCluster

namespace Event

/-- A removal of the container, or a wait for it, succeeded. -/
def Consumes (id : String) : Event → Prop
  | .called entry _ => entry.1.container? = some id ∧ entry.Succeeded
  | _ => False

/-- The event neither registers the container nor consumes it. -/
def Spares (id : String) (event : Event) : Prop :=
  ¬event.Consumes id ∧ ∀ behavior, event ≠ .registered id behavior

/-- The container whose removal succeeded. -/
def removedContainer? : Event → Option String
  | .called ⟨.removeContainer id _, some (.ok ())⟩ _ => some id
  | _ => none

end Event

/-- The last event about the container is its registration. -/
def Registered (id : String) (behavior : ContainerBehavior) (events : List Event) : Prop :=
  Since (Event.Spares id) (· = .registered id behavior) events

variable {id : String} {behavior : ContainerBehavior} {cluster : ScriptedCluster}

/-! ## One act -/

theorem container?_addContainer (cluster : ScriptedCluster) (id other : String)
    (behavior : ContainerBehavior) :
    (cluster.addContainer id behavior).container? other =
      if other = id then some behavior else cluster.container? other := by
  have without := cluster.container?_withoutContainer id other
  simp only [container?, addContainer, withoutContainer] at without ⊢
  rw [List.lookup_cons, without]
  by_cases same : other = id
  · subst same
    simp
  · rw [if_neg same, if_neg same, beq_eq_false_iff_ne.mpr same]

/-- The two ways in which a call for a container is answered: it is consumed, or left alone. -/
theorem consumption_ends (cluster : ScriptedCluster) {call : Call}
    (named : call.container? = some id) :
    Call.Entry.Succeeded ⟨call, (cluster.answer call).1⟩ ∧ cluster.container? id ≠ none ∧
        (cluster.answer call).2.container? id = none ∨
      ¬Call.Entry.Succeeded ⟨call, (cluster.answer call).1⟩ ∧
        (cluster.answer call).2.container? id = cluster.container? id := by
  have ends := answer_ends cluster call
  generalize cluster.answer call = answered at ends ⊢
  cases ends with
  | containerRemoved free present =>
    cases named
    refine .inl ⟨⟨_, rfl⟩, by rw [present]; exact nofun, ?_⟩
    exact (container?_withoutContainer _ _ _).trans (if_pos rfl)
  | exited free present =>
    cases named
    refine .inl ⟨⟨_, rfl⟩, by rw [present]; exact nofun, ?_⟩
    exact (container?_withoutContainer _ _ _).trans (if_pos rfl)
  | failed => exact .inr ⟨by rintro ⟨success, ⟨⟩⟩, rfl⟩
  | containerMissing => exact .inr ⟨by rintro ⟨success, ⟨⟩⟩, rfl⟩
  | lingering => exact .inr ⟨by rintro ⟨success, ⟨⟩⟩, rfl⟩
  | unawaited => exact .inr ⟨by rintro ⟨success, ⟨⟩⟩, rfl⟩
  | _ => cases named

/-- A wait that succeeds tells how the container exits. -/
theorem exits_of_wait {code : Int}
    (waited : (cluster.answer (.waitContainerRemoved id)).1 = some (.ok code)) :
    cluster.container? id = some (.exits code) := by
  have ends := answer_ends cluster (.waitContainerRemoved id)
  generalize cluster.answer (.waitContainerRemoved id) = answered at ends waited
  cases ends with
  | exited free present =>
    cases waited
    exact present
  | _ => cases waited

/-- **One act.** A container exists behind an act that registers it, and behind one that spares it
if it existed before. -/
theorem container?_act_iff (cluster : ScriptedCluster) (step : Act) :
    (cluster.act step).container? id = some behavior ↔
      cluster.event step = .registered id behavior ∨
        (cluster.event step).Spares id ∧ cluster.container? id = some behavior := by
  cases step with
  | call call =>
    have plain (behavior : ContainerBehavior) :
        cluster.event (.call call) ≠ .registered id behavior := nofun
    by_cases named : call.container? = some id
    · rcases cluster.consumption_ends named with ⟨succeeded, -, gone⟩ | ⟨failed, left⟩
      · have consumed : (cluster.event (.call call)).Consumes id := ⟨named, succeeded⟩
        simp only [act, gone, plain, Event.Spares, consumed, not_true_eq_false, false_and, or_self,
          reduceCtorEq]
      · have unconsumed : ¬(cluster.event (.call call)).Consumes id := fun consumes =>
          failed consumes.2
        simp [act, left, Event.Spares, unconsumed, plain]
    · have unconsumed : ¬(cluster.event (.call call)).Consumes id := fun consumes =>
        named consumes.1
      simp [act, container?_answer cluster named, Event.Spares, unconsumed, plain]
  | pushFrame frame => simp [act, event, Event.Spares, Event.Consumes, pushFrame, container?]
  | addContainer name other =>
    rw [act, container?_addContainer]
    simp only [event, Event.Spares, Event.Consumes, Event.registered.injEq]
    by_cases same : id = name
    · subst same
      simp
    · simp [same, Ne.symm same]
  | failNext operation error =>
    simp [act, event, Event.Spares, Event.Consumes, failNext, container?]

/-- A removal that succeeds is logged, and nothing else is. -/
theorem removedContainers_act (cluster : ScriptedCluster) (step : Act) :
    (cluster.act step).removedContainers =
      cluster.removedContainers ++ (cluster.event step).removedContainer?.toList := by
  cases step with
  | call call =>
    dsimp only [act, event]
    have ends := answer_ends cluster call
    generalize cluster.answer call = answered at ends ⊢
    cases ends with
    | failed => cases call <;> exact (List.append_nil _).symm
    | containerRemoved => rfl
    | _ => exact (List.append_nil _).symm
  | _ => exact (List.append_nil _).symm

/-! ## A whole run -/

/-- **What exists.** In a cluster that began without containers, those exist whose last event is a
registration. -/
theorem container?_acts_iff (frames : List Frame) (steps : List Act) :
    ((ofFrames frames).acts steps).container? id = some behavior ↔
      Registered id behavior ((ofFrames frames).history steps) := by
  induction steps using List.reverseRecOn with
  | nil => exact iff_of_false nofun not_since_nil
  | append_singleton steps last ih =>
    rw [acts_concat, history_concat, container?_act_iff, Registered, since_concat, ih, Registered]

theorem removedContainers_acts (cluster : ScriptedCluster) (steps : List Act) :
    (cluster.acts steps).removedContainers =
      cluster.removedContainers ++ (cluster.history steps).filterMap Event.removedContainer? :=
  field_acts removedContainers_act cluster steps

/-- What is consumed had been registered, and was not consumed since. -/
theorem registered_of_consumes {frames : List Frame} {steps : List Act}
    {former latter : List Event} {event : Event}
    (split : (ofFrames frames).history steps = former ++ event :: latter)
    (consumes : event.Consumes id) :
    ∃ behavior, Registered id behavior former ∧
      ∀ code injected, event = .called ⟨.waitContainerRemoved id, some (.ok code)⟩ injected →
        behavior = .exits code := by
  obtain ⟨earlier, step, later, rfl, rfl, rfl⟩ := exists_acts_of_history split
  cases step with
  | call call =>
    obtain ⟨named, succeeded⟩ := consumes
    rcases consumption_ends _ named with ⟨-, present, -⟩ | ⟨failed, -⟩
    · obtain ⟨behavior, held⟩ := Option.ne_none_iff_exists'.mp present
      refine ⟨behavior, (container?_acts_iff frames earlier).mp held, ?_⟩
      intro code injected waited
      obtain ⟨entry, -⟩ := Event.called.inj waited
      obtain ⟨rfl, answered⟩ := Sigma.mk.inj entry
      rw [exits_of_wait (eq_of_heq answered)] at held
      exact (Option.some.inj held).symm
    · exact absurd succeeded failed
  | _ => cases consumes

/-- **Containers are conserved.** Let anything happen to a cluster that began without containers. A
container exists just when the last event about it, of its registrations, its removals that
succeeded and the waits for it that succeeded, is a registration. A removal or a wait that succeeds
consumes the latest registration, which none has consumed before, so that there is a registration
between any two of them; and a wait that succeeds tells the exit code of that registration. The log
of removed containers holds those whose removal succeeded, in order. -/
theorem containers_conserved (frames : List Frame) (steps : List Act) :
    (∀ id, ((ofFrames frames).acts steps).container? id ≠ none ↔
        ∃ behavior, Registered id behavior ((ofFrames frames).history steps)) ∧
      (∀ former event latter, (ofFrames frames).history steps = former ++ event :: latter →
        ∀ id, event.Consumes id →
          ∃ behavior, Registered id behavior former ∧
            ∀ code injected, event = .called ⟨.waitContainerRemoved id, some (.ok code)⟩ injected →
              behavior = .exits code) ∧
      (∀ former event between later latter,
        (ofFrames frames).history steps = former ++ event :: (between ++ later :: latter) →
        ∀ id, event.Consumes id → later.Consumes id →
          ∃ behavior, Registered id behavior between) ∧
      ((ofFrames frames).acts steps).removedContainers =
        ((ofFrames frames).history steps).filterMap Event.removedContainer? := by
  refine ⟨?_, ?_, ?_, removedContainers_acts (ofFrames frames) steps⟩
  · intro id
    rw [Option.ne_none_iff_exists']
    exact exists_congr fun behavior => container?_acts_iff frames steps
  · intro former event latter split id consumes
    exact registered_of_consumes split consumes
  · intro former event between later latter split id first second
    rw [← List.cons_append, ← List.append_assoc] at split
    obtain ⟨behavior, registered, -⟩ := registered_of_consumes split second
    refine ⟨behavior, registered.of_not_keeps (fun spares => spares.1 first) ?_⟩
    rintro rfl
    exact first

/-- A container exits, is registered again under its old id, and is removed. -/
private def revolving : List Act :=
  [.addContainer "ca" (.exits 3), .call (.waitContainerRemoved "ca"), .addContainer "ca" .lingers,
    .call (.removeContainer "ca" .forced)]

theorem containers_conserved_again :
    (ofFrames []).history revolving = [.registered "ca" (.exits 3)] ++
        .called ⟨.waitContainerRemoved "ca", some (.ok 3)⟩ none ::
          ([.registered "ca" .lingers] ++
            .called ⟨.removeContainer "ca" .forced, some (.ok ())⟩ none :: []) ∧
      (∃ behavior, Registered "ca" behavior [.registered "ca" .lingers]) ∧
      Registered "ca" (.exits 3) [.registered "ca" (.exits 3)] ∧
      ((ofFrames []).acts revolving).removedContainers = ["ca"] := by
  obtain ⟨-, consumed, between, log⟩ := containers_conserved [] revolving
  have waited : Event.Consumes "ca" (.called ⟨.waitContainerRemoved "ca", some (.ok 3)⟩ none) :=
    ⟨rfl, 3, rfl⟩
  have removed : Event.Consumes "ca"
      (.called ⟨.removeContainer "ca" .forced, some (.ok ())⟩ none) := ⟨rfl, (), rfl⟩
  obtain ⟨behavior, registered, exits⟩ :=
    consumed [.registered "ca" (.exits 3)] _ _ rfl "ca" waited
  refine ⟨rfl, ?_, ?_, log⟩
  · exact between [.registered "ca" (.exits 3)] _ [.registered "ca" .lingers] _ [] rfl "ca" waited
      removed
  · rwa [exits 3 none rfl] at registered

end ReplicaWatch.ScriptedCluster
