import ReplicaWatch.Proofs.Teardown.Ledger
import ReplicaWatch.Proofs.Teardown.Removal

/-! # Rehearsing a teardown

A teardown over a scripted cluster always has a result, and follows its course on what the cluster
answered (`Teardown.run_answers`): a wait that is given up before it reaches the cluster is one that
the cluster was not asked for. Hence the containers of a service that was removed are gone
afterwards, and all others are as they were (`Teardown.run_reaps`).
-/

namespace ReplicaWatch.Teardown

variable {α : Type} {fired : Prop} {id : String} {containers : List String}
  {report : TeardownReport} {log : List Call.Entry} {token : Token} {w after : World Rehearsal}

/-- What is done in a play was answered by the cluster, in this order. -/
theorem play_answers {dialogue : Dialogue Move Move.Answer α} {result : Option α}
    (played : play Rehearsal.client token dialogue w = (result, after)) :
    ∃ log, w.state.cluster.Answers log after.state.cluster ∧ Logs True dialogue log result := by
  induction dialogue generalizing w with
  | finish result =>
    cases played
    exact ⟨[], .nil _, .finished result⟩
  | ask move next ih =>
    cases move with
    | call request =>
      have asked := Rehearsal.cluster_call request w
      unfold play at played
      split at played
      · next answer middle called =>
        rw [called] at asked
        obtain ⟨log, answers, logs⟩ := ih answer played
        exact ⟨_, .cons asked.symm answers, .answered answer logs⟩
      · next middle called =>
        rw [called] at asked
        cases played
        exact ⟨_, .single asked.symm, .silent⟩
    | grace container period =>
      unfold play at played
      obtain ⟨log, answers, logs⟩ := ih () played
      -- Whether the wait was given up in time or not, it came to the cluster once at most.
      rcases Rehearsal.cluster_race (w.now + period.ticks) token (.waitContainerRemoved container)
        w with same | asked
      · rw [same] at answers
        exact ⟨log, answers, .skipped trivial logs⟩
      · rw [asked] at answers
        exact ⟨_, .cons rfl answers, .awaited _ logs⟩

theorem Move.Tears.prompt {request : Call} (tears : Move.Tears id (.call request)) :
    request.operation ≠ .waitContainerRemoved := by
  cases tears with
  | reap reaps => cases reaps; exact nofun
  | _ => exact nofun

/-- **What a cluster answers to a teardown.** -/
theorem run_answers (token : Token) (id : String) (w : World Rehearsal) :
    ∃ result after containers log, run Rehearsal.client token id w = (some result, after) ∧
      w.state.cluster.Answers log after.state.cluster ∧
      Course True id containers log (some result) := by
  have answers {request : Call} (w : World Rehearsal) (tears : Move.Tears id (.call request)) :
      (w.call Rehearsal.client request).1.isSome := by
    obtain ⟨answer, after, called, -⟩ := call_answered tears.prompt w
    rw [called]
    rfl
  obtain ⟨result, ended⟩ := Option.isSome_iff_exists.mp
    (play_isSome answers (dialogue_asks id) w : (play Rehearsal.client token _ w).1.isSome)
  have ran : run Rehearsal.client token id w =
      (some result, (run Rehearsal.client token id w).2) := Prod.ext ended rfl
  obtain ⟨log, answers, logs⟩ := play_answers ran
  obtain ⟨containers, course⟩ := dialogue_logs logs
  exact ⟨result, _, containers, log, ran, answers, course⟩

/-- A service that was removed was found before, and its tasks were listed if it has a grace
period. -/
theorem Course.found (course : Course fired id containers log (some (.ok report)))
    (removed : report.serviceRemoved = true) :
    ∃ service, (⟨.inspectService id, some (.ok service)⟩ : Call.Entry) ∈ log ∧
      (service.gracePeriod? ≠ none →
        ∃ tasks, (⟨.listTasks (.all id), some (.ok tasks)⟩ : Call.Entry) ∈ log) := by
  cases course with
  | gone => cases removed
  | graceless graceless => exact ⟨_, List.mem_cons_self, fun graced => absurd graceless graced⟩
  | listed =>
    exact ⟨_, List.mem_cons_self, fun _ => ⟨_, List.mem_cons_of_mem _ List.mem_cons_self⟩⟩

section Answers

variable {before after : ScriptedCluster} {container : String}

/-- A course that ends well leaves none of its containers. -/
theorem Course.container?_eq_none (course : Course fired id containers log (some (.ok report)))
    (answers : before.Answers log after) (plain : before.Plain .removeContainer)
    (member : container ∈ containers) : after.container? container = none := by
  obtain ⟨answer, logged, tolerable⟩ := course.reaped container member
  apply ScriptedCluster.container?_eq_none_iff.mpr
  exact answers.not_holds logged rfl plain tolerable

/-- A course leaves the containers alone that it does not have to reap. -/
theorem Course.container?_eq {outcome : Option (Except ClusterError TeardownReport)}
    (course : Course fired id containers log outcome) (answers : before.Answers log after)
    (spared : container ∉ containers) :
    after.container? container = before.container? container := by
  apply answers.container?_eq
  intro entry member named
  exact spared (course.container_mem member named)

end Answers

/-- **A teardown reaps the containers of its service, and nothing else.** Let no failure be queued
for the removal of containers that claims that one is gone. A teardown always has a result. When it
ends well and has removed the service, then that service is the only one that it removed; if the
service has a grace period, then the containers of the tasks that were listed and have not shut down
are gone, and every other container is as it was. Without a grace period no container is touched,
whatever the result. -/
theorem run_reaps (plain : w.state.cluster.Plain .removeContainer) (token : Token) (id : String) :
    ∃ result after containers log, run Rehearsal.client token id w = (some result, after) ∧
      w.state.cluster.Answers log after.state.cluster ∧
      Course True id containers log (some result) ∧
      (∀ report, result = .ok report → report.serviceRemoved = true →
        id ∉ w.state.cluster.removedServices ∧
        after.state.cluster.removedServices = w.state.cluster.removedServices ++ [id] ∧
        ∃ service, (⟨.inspectService id, some (.ok service)⟩ : Call.Entry) ∈ log ∧
          (service.gracePeriod? ≠ none →
            ∃ tasks, (⟨.listTasks (.all id), some (.ok tasks)⟩ : Call.Entry) ∈ log ∧
              (∀ task ∈ tasks, ∀ container, task.Runs container →
                after.state.cluster.container? container = none) ∧
              ∀ container, (∀ task ∈ tasks, ¬task.Runs container) →
                after.state.cluster.container? container =
                  w.state.cluster.container? container)) ∧
      ∀ service, (⟨.inspectService id, some (.ok service)⟩ : Call.Entry) ∈ log →
        service.gracePeriod? = none →
        after.state.cluster.containers = w.state.cluster.containers := by
  obtain ⟨result, after, containers, log, ran, answers, course⟩ := run_answers token id w
  refine ⟨result, after, containers, log, ran, answers, course, ?_, ?_⟩
  · rintro report rfl removed
    have logged := course.told.serviceRemoved.mp removed
    obtain ⟨service, inspected, listing⟩ := course.found removed
    refine ⟨?_, ?_, service, inspected, ?_⟩
    · intro gone
      have absent : ¬w.state.cluster.Holds (.service id) := fun held => held.2 gone
      exact answers.not_removes absent _ logged ⟨rfl, (), rfl⟩
    · rw [answers.removedServices_eq, course.removedServices_eq, if_pos removed]
    · intro graced
      obtain ⟨tasks, listed⟩ := listing graced
      have collects := course.collects listed
      refine ⟨tasks, listed, ?_, ?_⟩
      · intro task member container runs
        apply course.container?_eq_none answers plain
        exact (collects.mem_iff container).mpr ⟨task, member, runs⟩
      · intro container idle
        apply course.container?_eq answers
        intro collected
        obtain ⟨task, member, runs⟩ := (collects.mem_iff container).mp collected
        exact idle task member runs
  · intro service inspected graceless
    apply answers.containers_eq
    intro entry member
    cases named : entry.1.container? with
    | none => rfl
    | some container =>
      have within := course.container_mem member named
      rw [course.eq_nil_of_graceless inspected graceless] at within
      cases within

/-- A service whose tasks name one container that lingers, twice, one that exits, one of a task that
has shut down, and a blank one. The first wait for a container fails. -/
private def furnished : World Rehearsal :=
  ⟨0, .instant ((((((ScriptedCluster.ofFrames
    [⟨some ⟨"web", "web", .replicated (some 2), none, some (.ofSeconds 5)⟩,
      [⟨"a", "web", 0, "", .known .running, .known .running, some "stays", ""⟩,
        ⟨"b", "web", 1, "", .known .running, .known .starting, some "exits", ""⟩,
        ⟨"c", "web", 1, "", .known .shutdown, .known .shutdown, some "former", ""⟩,
        ⟨"d", "web", 0, "", .known .running, .known .running, some " stays ", ""⟩,
        ⟨"e", "web", 2, "", .known .running, .known .pending, some " ", ""⟩], []⟩]).addContainer
    "stays" .lingers).addContainer "exits" (.exits 0)).addContainer "former" .lingers).addContainer
    "foreign" (.exits 1)).failNext .waitContainerRemoved .http), []⟩

theorem run_reaps_furnished :
    furnished.state.cluster.Plain .removeContainer ∧
      ∃ after, run Rehearsal.client .never "web" furnished =
          (some (.ok ⟨true, ["stays"]⟩), after) ∧
        after.state.cluster.removedServices = furnished.state.cluster.removedServices ++ ["web"] ∧
        ["stays", "exits", "former", "foreign"].map after.state.cluster.container? =
          [none, none, some .lingers, some (.exits 1)] := by
  have plain : furnished.state.cluster.Plain .removeContainer := nofun
  obtain ⟨result, after, containers, log, ran, -, -, reaps, -⟩ := run_reaps plain .never "web"
  have reported : (run Rehearsal.client .never "web" furnished).1 =
      some (.ok ⟨true, ["stays"]⟩) := rfl
  have left : ["stays", "exits", "former", "foreign"].map
      (run Rehearsal.client .never "web" furnished).2.state.cluster.container? =
        [none, none, some .lingers, some (.exits 1)] := rfl
  rw [ran] at reported left
  cases reported
  obtain ⟨-, grown, -⟩ := reaps _ rfl rfl
  exact ⟨plain, after, ran, grown, left⟩

end ReplicaWatch.Teardown
