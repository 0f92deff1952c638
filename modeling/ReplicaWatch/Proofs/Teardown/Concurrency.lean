import ReplicaWatch.Proofs.Teardown.Interleaving

/-! # What teardowns at once come to

Teardowns of one service that share a cluster in which no failure is queued do not fail because of
each other: one of them removes the service, each container is removed by one of them at most, and
what any of them has to reap is gone when it has ended (`Teardown.interleaving_reaps`).
-/

namespace ReplicaWatch.Teardown

variable {n : Nat} {id : String} {i j : Fin n} {cluster : ScriptedCluster} {before fleet : Fleet n}
  {journal : List (Fin n × Call.Entry)} {report : TeardownReport}
  {result : Except ClusterError TeardownReport}

theorem Course.nodup {fired : Prop} {containers : List String} {log : List Call.Entry}
    {outcome : Option (Except ClusterError TeardownReport)}
    (course : Course fired id containers log outcome) : containers.Nodup := by
  cases course with
  | listed _ collects => exact collects.nodup
  | _ => exact .nil

namespace Interleaving

/-- No two teardowns remove the same object. -/
theorem eq_of_removes (interleaving : Interleaving before journal fleet) {object : Object}
    {entry entry' : Call.Entry} (former : (i, entry) ∈ journal) (latter : (j, entry') ∈ journal)
    (removes : entry.Removes object) (removes' : entry'.Removes object) : i = j := by
  have once := List.pairwise_map.mp interleaving.answers.removes_once
  have symmetric : Std.Symm fun first second : Fin n × Call.Entry =>
      ∀ object, first.2.Removes object → ¬second.2.Removes object :=
    ⟨fun _ _ apart object taken given => apart object given taken⟩
  by_contra other
  have apart : (i, entry) ≠ (j, entry') := fun same => other (congrArg Prod.fst same)
  exact once.forall former latter apart object removes removes'

/-- Where no failure is queued, a teardown among others ends well. -/
theorem ends_well (interleaving : Interleaving (.start n id cluster) journal fleet)
    (free : ∀ operation, cluster.failures operation = []) (ended : fleet.Ended i result) :
    ∃ report, result = .ok report := by
  obtain ⟨containers, course⟩ := interleaving.course ended
  cases result with
  | ok report => exact ⟨report, rfl⟩
  | error error =>
    obtain ⟨call, logged, listing⟩ := course.error_logged
    obtain ⟨gone, unlisted⟩ :=
      interleaving.answers.error_of_free free (own_sublist.subset logged)
    rw [listing gone] at unlisted
    exact absurd rfl unlisted

/-- What a teardown among others listed is gone when it has ended. -/
theorem reaped (interleaving : Interleaving (.start n id cluster) journal fleet)
    (free : ∀ operation, cluster.failures operation = []) (ended : fleet.Ended i (.ok report))
    {tasks : List Task} (listed : (i, ⟨.listTasks (.all id), some (.ok tasks)⟩) ∈ journal)
    {task : Task} (member : task ∈ tasks) {container : String} (runs : task.Runs container) :
    fleet.cluster.container? container = none := by
  obtain ⟨containers, course⟩ := interleaving.course ended
  have collects := course.collects (mem_own.mpr listed)
  have collected := (collects.mem_iff container).mpr ⟨task, member, runs⟩
  obtain ⟨answer, logged, tolerable⟩ := course.reaped container collected
  have plain : cluster.Plain .removeContainer := by
    rw [ScriptedCluster.Plain, free]
    exact nofun
  apply ScriptedCluster.container?_eq_none_iff.mpr
  exact interleaving.answers.not_holds (own_sublist.subset logged) rfl plain tolerable

end Interleaving

/-- **Teardowns at once do not get in each other's way.** Let any number of teardowns of one service
share a cluster in which no failure is queued. In whatever order they make their calls, and their
waits for containers end, they stop moving at some time, and until it has a result, each of them can
move. No result is an error. One of them at most reports that it removed the service, and no
container is reported twice, by one of them or by two. When a teardown has ended, the containers
that it had listed, of tasks that had not shut down, are gone. -/
theorem interleaving_reaps (free : ∀ operation, cluster.failures operation = []) (n : Nat)
    (id : String) :
    (∀ fleets : Nat → Fleet n, ∃ k, ¬∃ entries, (fleets k).Step entries (fleets (k + 1))) ∧
    ∀ journal fleet, Interleaving (.start n id cluster) journal fleet →
      (∀ i, (∃ result, fleet.Ended i result) ∨
        ∃ entries after thread, (fleet.threads i).Moves fleet.cluster entries after thread) ∧
      (∀ i result, fleet.Ended i result → ∃ report, result = .ok report) ∧
      (∀ i j report report', fleet.Ended i (.ok report) → fleet.Ended j (.ok report') →
        (report.serviceRemoved = true → report'.serviceRemoved = true → i = j) ∧
        ∀ container ∈ report.containersRemoved, container ∈ report'.containersRemoved → i = j) ∧
      ∀ i report, fleet.Ended i (.ok report) → report.containersRemoved.Nodup ∧
        ∀ tasks, (i, ⟨.listTasks (.all id), some (.ok tasks)⟩) ∈ journal →
          ∀ task ∈ tasks, ∀ container, task.Runs container →
            fleet.cluster.container? container = none := by
  constructor
  · exact @WellFounded.not_rel_apply_succ _ _ ⟨Fleet.step_wellFounded⟩
  intro journal fleet interleaving
  refine ⟨interleaving.moves_on, fun _ _ => interleaving.ends_well free, ?_, ?_⟩
  · intro i j report report' ended ended'
    obtain ⟨containers, course⟩ := interleaving.course ended
    obtain ⟨containers', course'⟩ := interleaving.course ended'
    have told := course.told
    have told' := course'.told
    constructor
    · intro removed removed'
      have logged := mem_own.mp (told.serviceRemoved.mp removed)
      have logged' := mem_own.mp (told'.serviceRemoved.mp removed')
      exact interleaving.eq_of_removes logged logged' ⟨rfl, (), rfl⟩ ⟨rfl, (), rfl⟩
    · intro container removed removed'
      have logged := mem_own.mp ((told.mem_iff container).mp removed).2
      have logged' := mem_own.mp ((told'.mem_iff container).mp removed').2
      exact interleaving.eq_of_removes logged logged' ⟨rfl, (), rfl⟩ ⟨rfl, (), rfl⟩
  · intro i report ended
    obtain ⟨containers, course⟩ := interleaving.course ended
    refine ⟨course.nodup.sublist course.told.sublist, ?_⟩
    intro tasks listed task member container runs
    exact interleaving.reaped free ended listed member runs

/-- A service with a container that lingers and one that exits. -/
private def manned : ScriptedCluster :=
  ((ScriptedCluster.ofFrames
    [⟨some ⟨"web", "web", .replicated (some 2), none, some (.ofSeconds 5)⟩,
      [⟨"a", "web", 0, "", .known .running, .known .running, some "ca", ""⟩,
        ⟨"b", "web", 1, "", .known .running, .known .running, some "cb", ""⟩], []⟩]).addContainer
    "ca" .lingers).addContainer "cb" (.exits 0)

/-- Two teardowns list the same containers before one of them removes the service, and the other one
waits while its container is removed. -/
theorem interleaving_reaps_racing :
    (∀ operation, manned.failures operation = []) ∧
      ∃ journal fleet, Interleaving (.start 2 "web" manned) journal fleet ∧
        fleet.Ended 0 (.ok ⟨false, []⟩) ∧ fleet.Ended 1 (.ok ⟨true, ["ca"]⟩) ∧
        fleet.cluster.container? "ca" = none ∧ fleet.cluster.container? "cb" = none := by
  have free (operation : Operation) : manned.failures operation = [] := rfl
  have raced : ∃ journal fleet, Interleaving (.start 2 "web" manned) journal fleet ∧
      (0, ⟨.listTasks (.all "web"), some (.ok (manned.tasksFor (.all "web")))⟩) ∈ journal ∧
      fleet.Ended 0 (.ok ⟨false, []⟩) ∧ fleet.Ended 1 (.ok ⟨true, ["ca"]⟩) :=
    ⟨_, _, .step (.move 0 (.called rfl)) <| .step (.move 1 (.called rfl)) <|
      .step (.move 0 (.called rfl)) <| .step (.move 1 (.called rfl)) <|
      .step (.move 1 (.called rfl)) <| .step (.move 0 (.called rfl)) <|
      .step (.move 0 (.lingering rfl)) <| .step (.move 1 .hurried) <|
      .step (.move 1 (.called rfl)) <| .step (.move 0 .waited) <|
      .step (.move 0 (.called rfl)) <| .step (.move 0 (.awaited rfl)) <|
      .step (.move 1 (.awaited rfl)) <| .step (.move 0 (.called rfl)) <|
      .step (.move 1 (.called rfl)) <| .done _,
      .tail _ (.tail _ (.head _)), rfl, rfl⟩
  obtain ⟨journal, fleet, interleaving, listed, ended, ended'⟩ := raced
  obtain ⟨-, settles⟩ := interleaving_reaps free 2 "web"
  obtain ⟨-, -, -, reaps⟩ := settles journal fleet interleaving
  have gone := (reaps 0 _ ended).2 _ listed
  refine ⟨free, journal, fleet, interleaving, ended, ended', ?_, ?_⟩
  · exact gone _ (.head _) "ca" ⟨nofun, "ca", rfl, rfl, nofun⟩
  · exact gone _ (.tail _ (.head _)) "cb" ⟨nofun, "cb", rfl, rfl, nofun⟩

end ReplicaWatch.Teardown
