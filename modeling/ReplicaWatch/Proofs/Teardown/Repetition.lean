import ReplicaWatch.Proofs.Teardown.Rehearsed

/-! # Tearing a service down again

A teardown that failed is finished by a later one that lists the same containers and ends well, and
what is gone stays gone, however often the service is torn down (`Teardown.run_again`). While the
service was not removed, and the script shows the same tasks in every frame
(`ScriptedCluster.Steady`), the later teardown does list them
(`Teardown.Course.collects_of_steady`). Once the service was removed, a teardown finds nothing to
do, and leaves the containers that no other one has reaped.
-/

namespace ReplicaWatch

namespace ScriptedCluster

variable {id : String} {cluster middle after : ScriptedCluster} {service : Service}
  {tasks : List Task} {frame : Frame}

/-- The frame that is shown is one of the script. -/
theorem mem_of_currentFrame? (current : cluster.currentFrame? = some frame) :
    frame ∈ cluster.frames := by
  unfold currentFrame? at current
  split at current
  · next found =>
    cases current
    exact List.mem_of_getElem? found
  · exact List.mem_of_getLast? current

/-- A service that is found is in the frame that is shown, and was not removed. -/
theorem service?_eq_some (found : cluster.service? id = some service) :
    id ∉ cluster.removedServices ∧ ∃ frame, cluster.currentFrame? = some frame ∧
      frame.service = some service ∧ service.id = id := by
  unfold service? at found
  split at found
  · cases found
  · next unremoved =>
    split at found
    · cases found
    · next frame current =>
      obtain ⟨held, own⟩ := Option.filter_eq_some_iff.mp found
      exact ⟨by simpa using unremoved, frame, current, held, by simpa using own⟩

/-- An inspection and the listing after it read the same frame. -/
theorem shown_of_listed
    (inspected : cluster.answer (.inspectService id) = (some (.ok service), middle))
    (listed : middle.answer (.listTasks (.all id)) = (some (.ok tasks), after)) :
    ∃ frame ∈ cluster.frames, frame.service = some service ∧ service.id = id ∧
      frame.tasks.filter (lists (.all id)) = tasks := by
  have inspecting := answer_ends cluster (.inspectService id)
  have listing := answer_ends middle (.listTasks (.all id))
  rw [inspected] at inspecting
  rw [listed] at listing
  cases inspecting with
  | inspected _ found =>
    obtain ⟨unremoved, frame, current, held, own⟩ := service?_eq_some found
    cases listing with
    | tasksListed =>
      have present : ¬cluster.advanced.removedServices.contains id = true := by
        rwa [List.contains_iff_mem]
      have among : frame ∈ cluster.advanced.frames := mem_of_currentFrame? current
      have shown : (cluster.advanced.noting (.inspectService id)).currentFrame? = some frame :=
        current
      refine ⟨frame, among, held, own, ?_⟩
      apply Eq.symm
      apply (if_neg present).trans
      rw [shown]

/-- All frames of the script show the same service and the same tasks. -/
def Steady (cluster : ScriptedCluster) : Prop :=
  ∀ former ∈ cluster.frames, ∀ latter ∈ cluster.frames,
    former.service = latter.service ∧ former.tasks = latter.tasks

/-- In a steady script an inspection fails for no other reason than a queued failure. -/
theorem Steady.inspected (steady : cluster.Steady) (member : frame ∈ cluster.frames)
    (held : frame.service = some service) (own : service.id = id)
    (unremoved : id ∉ cluster.removedServices) (plain : cluster.Plain .inspectService)
    {answer : (Call.inspectService id).Answer}
    (answered : cluster.answer (.inspectService id) = (some answer, after)) :
    answer = .ok service ∨ ∃ error, answer = .error error ∧ error.isAlreadyGone = false := by
  have scripted : cluster.advanced.frames ≠ [] := List.ne_nil_of_mem member
  have present : ¬cluster.advanced.removedServices.contains id = true := by
    rwa [List.contains_iff_mem]
  obtain ⟨shown, among, current⟩ := currentFrame?_mem scripted
  have found : cluster.advanced.service? id = some service := by
    rw [service?, if_neg present, current]
    simp [(steady shown among frame member).1, held, own]
  have ends := answer_ends cluster (.inspectService id)
  rw [answered] at ends
  cases ends with
  | failed queued => exact .inr ⟨_, rfl, plain _ (queued ▸ List.mem_cons_self)⟩
  | inspected _ seen => exact .inl (congrArg _ (Option.some.inj (seen.symm.trans found)))
  | missed _ missing =>
    rw [found] at missing
    cases missing

end ScriptedCluster

namespace Teardown

variable {fired : Prop} {id container : String} {containers others : List String}
  {report : TeardownReport} {log : List Call.Entry} {frame : Frame} {service : Service}
  {before after : ScriptedCluster} {w : World Rehearsal}

/-- The containers that a teardown would have to reap: those of its listing, if it lists. -/
def collected (id : String) (cluster : ScriptedCluster) : List String :=
  match cluster.answer (.inspectService id) with
  | (some (.ok service), next) =>
    if service.gracePeriod? = none then []
    else
      match (next.answer (.listTasks (.all id))).1 with
      | some (.ok tasks) => liveContainers tasks
      | _ => []
  | _ => []

/-- A course has to reap what the cluster that it is answered by shows. -/
theorem Course.eq_collected {outcome : Option (Except ClusterError TeardownReport)}
    (course : Course fired id containers log outcome) (answers : before.Answers log after) :
    containers = collected id before := by
  unfold collected
  cases answers with
  | nil => cases course
  | cons inspected answers =>
    cases course with
    | graceless graceless => simp only [inspected, graceless, ↓reduceIte]
    | unlistable graced =>
      cases answers with
      | cons listed _ => simp only [inspected, graced, listed, reduceCtorEq, ↓reduceIte]
    | unlisted graced =>
      cases answers with
      | cons listed _ => simp only [inspected, graced, listed, reduceCtorEq, ↓reduceIte]
    | listed graced collects =>
      cases answers with
      | cons listed _ =>
        simp only [inspected, graced, listed, reduceCtorEq, ↓reduceIte]
        exact collects.unique (liveContainers_collects _)
    | _ => simp only [inspected]

/-- What a course has to reap was shown by a frame of the script, together with the service. -/
theorem Course.shown {outcome : Option (Except ClusterError TeardownReport)}
    (course : Course fired id containers log outcome) (answers : before.Answers log after)
    (member : container ∈ containers) :
    ∃ frame ∈ before.frames, ∃ service, frame.service = some service ∧ service.id = id ∧
      service.gracePeriod? ≠ none ∧
      Collects (frame.tasks.filter (ScriptedCluster.lists (.all id))) containers := by
  cases course with
  | listed graced collects =>
    cases answers with
    | cons inspected answers =>
      cases answers with
      | cons listed _ =>
        obtain ⟨frame, among, held, own, same⟩ := ScriptedCluster.shown_of_listed inspected listed
        exact ⟨frame, among, _, held, own, by rw [graced]; nofun, same ▸ collects⟩
  | _ => cases member

/-- While a script is steady and a service is there, a teardown that ends well collects what the
script shows. -/
theorem Course.collects_of_steady (course : Course fired id others log (some (.ok report)))
    (answers : before.Answers log after) (plain : before.Plain .inspectService)
    (steady : before.Steady) (unremoved : id ∉ before.removedServices)
    (member : frame ∈ before.frames) (held : frame.service = some service)
    (own : service.id = id) (graced : service.gracePeriod? ≠ none) :
    Collects (frame.tasks.filter (ScriptedCluster.lists (.all id))) others := by
  cases course with
  | gone gone =>
    cases answers with
    | cons answered _ =>
      rcases steady.inspected member held own unremoved plain answered with
        found | ⟨error, same, fatal⟩
      · cases found
      · cases same
        rw [gone] at fatal
        cases fatal
  | graceless graceless =>
    cases answers with
    | cons answered _ =>
      rcases steady.inspected member held own unremoved plain answered with
        found | ⟨error, same, _⟩
      · cases found
        exact absurd graceless graced
      · cases same
  | listed _ collects =>
    cases answers with
    | cons inspected answers =>
      cases answers with
      | cons listed _ =>
        obtain ⟨shown, among, -, -, same⟩ := ScriptedCluster.shown_of_listed inspected listed
        rwa [(steady frame member shown among).2, same]

/-- A teardown of a service that was removed finds nothing to do. -/
theorem Course.nothing_of_removed (course : Course fired id containers log (some (.ok report)))
    (answers : before.Answers log after) (removed : id ∈ before.removedServices) :
    report = nothing ∧ after.containers = before.containers := by
  have unseen {service : Service} {next : ScriptedCluster}
      (answered : before.answer (.inspectService id) = (some (.ok service), next)) : False := by
    apply ScriptedCluster.uninspected_of_removed removed service
    rw [answered]
  cases course with
  | gone =>
    refine ⟨rfl, answers.containers_eq ?_⟩
    intro entry member
    cases List.mem_singleton.mp member
    rfl
  | graceless =>
    cases answers with
    | cons answered _ => exact (unseen answered).elim
  | listed =>
    cases answers with
    | cons answered _ => exact (unseen answered).elim

/-- Tears a service down again and again, once with each token. -/
def runs {σ : Type} (client : Client σ) (id : String) (tokens : List Token) (w : World σ) :
    World σ :=
  tokens.foldl (fun w token => (run client token id w).2) w

theorem runs_cons {σ : Type} (client : Client σ) (id : String) (token : Token)
    (rest : List Token) (w : World σ) :
    runs client id (token :: rest) w = runs client id rest (run client token id w).2 := rfl

theorem runs_append {σ : Type} (client : Client σ) (id : String) (former latter : List Token)
    (w : World σ) :
    runs client id (former ++ latter) w = runs client id latter (runs client id former w) :=
  List.foldl_append

/-- All of them together leave one log of what the cluster answered. -/
theorem runs_answers (id : String) (tokens : List Token) (w : World Rehearsal) :
    ∃ log, w.state.cluster.Answers log (runs Rehearsal.client id tokens w).state.cluster := by
  induction tokens generalizing w with
  | nil => exact ⟨[], .nil _⟩
  | cons token rest ih =>
    obtain ⟨result, after, containers, log, ran, answers, -⟩ := run_answers token id w
    obtain ⟨others, later⟩ := ih after
    refine ⟨log ++ others, ?_⟩
    rw [runs_cons, ran]
    exact answers.append later

/-- What a teardown that ended well had to reap does not come back. -/
theorem Course.container?_runs
    (course : Course fired id containers log (some (.ok report)))
    (answers : before.Answers log w.state.cluster) (plain : before.Plain .removeContainer)
    (member : container ∈ containers) (later : List Token) :
    (runs Rehearsal.client id later w).state.cluster.container? container = none := by
  have gone := course.container?_eq_none answers plain member
  obtain ⟨_, rest⟩ := runs_answers id later w
  rw [ScriptedCluster.container?_eq_none_iff] at gone ⊢
  exact fun held => gone (rest.holds held)

/-- **Tearing a service down again.** Let no failure be queued that claims that something is gone,
and let a service be torn down any number of times, one time after another. Each teardown has a
result. When a later one ends well, then a container that the first one had to reap is gone for good
if the first one ended well, or if the later one has to reap it too. The later one does have to reap
it if the service was not removed before, and the script shows the same service with the same tasks
in all of its frames. If the service was removed before, then the later one does nothing and reports
that. -/
theorem run_again (plain : ∀ operation, w.state.cluster.Plain operation) (id : String)
    (first last : Token) (between : List Token) :
    ∃ result outcome after, (run Rehearsal.client first id w).1 = some result ∧
      run Rehearsal.client last id (runs Rehearsal.client id (first :: between) w) =
        (some outcome, after) ∧
      ∀ report, outcome = .ok report →
        (∀ container ∈ collected id w.state.cluster,
          ((∃ former, result = .ok former) ∨
            container ∈ collected id
              (runs Rehearsal.client id (first :: between) w).state.cluster ∨
            w.state.cluster.Steady ∧ id ∉
              (runs Rehearsal.client id (first :: between) w).state.cluster.removedServices) →
          ∀ later, (runs Rehearsal.client id later after).state.cluster.container? container =
            none) ∧
        (id ∈ (runs Rehearsal.client id (first :: between) w).state.cluster.removedServices →
          report = nothing ∧ after.state.cluster.containers =
            (runs Rehearsal.client id (first :: between) w).state.cluster.containers) := by
  obtain ⟨result, middle, containers, log, ran, answers, course⟩ := run_answers first id w
  obtain ⟨entries, meanwhile⟩ := runs_answers id between middle
  -- The cluster that the last teardown meets has come out of the first one's by calls alone.
  have passed := answers.append meanwhile
  have begun : runs Rehearsal.client id (first :: between) w =
      runs Rehearsal.client id between middle := by
    rw [runs_cons, ran]
  obtain ⟨outcome, after, others, rest, ended, finishing, course'⟩ :=
    run_answers last id (runs Rehearsal.client id between middle)
  rw [begun, ← course.eq_collected answers, ← course'.eq_collected finishing]
  refine ⟨result, outcome, after, congrArg Prod.fst ran, ended, ?_⟩
  rintro report rfl
  refine ⟨?_, course'.nothing_of_removed finishing⟩
  rintro container member (⟨former, rfl⟩ | listed | ⟨steady, unremoved⟩) later
  · have stays := course.container?_runs answers (plain _) member (between ++ last :: later)
    rwa [runs_append, runs_cons, ended] at stays
  · exact course'.container?_runs finishing (passed.plain (plain _)) listed later
  · obtain ⟨frame, among, service, held, own, graced, collects⟩ := course.shown answers member
    have same := passed.frames_eq
    have collects' : Collects (frame.tasks.filter (ScriptedCluster.lists (.all id))) others := by
      apply course'.collects_of_steady finishing (passed.plain (plain _)) _ unremoved _ held own
        graced
      · rwa [ScriptedCluster.Steady, same]
      · rwa [same]
    rw [collects.unique collects'] at member
    exact course'.container?_runs finishing (passed.plain (plain _)) member later

/-- A service with a grace period, and a task in some container. -/
private def lodging (container : String) : Frame :=
  ⟨some ⟨"web", "web", .replicated (some 1), none, some (.ofSeconds 5)⟩,
    [⟨"a", "web", 0, "", .known .running, .known .running, some container, ""⟩], []⟩

/-- A service that cannot be removed at first. -/
private def busy : World Rehearsal :=
  ⟨0, .instant (((ScriptedCluster.ofFrames [lodging "ca"]).addContainer "ca" .lingers).failNext
    .removeService (.api 503 "busy")), []⟩

/-- The second teardown finishes what a failure left over from the first. -/
theorem run_again_finishing :
    (∀ operation, busy.state.cluster.Plain operation) ∧
      collected "web" busy.state.cluster = ["ca"] ∧
      (run Rehearsal.client .never "web" busy).1 = some (.error (.api 503 "busy")) ∧
      ∃ after, run Rehearsal.client .never "web" (runs Rehearsal.client "web" [.never] busy) =
          (some (.ok ⟨true, ["ca"]⟩), after) ∧
        after.state.cluster.container? "ca" = none := by
  have plain (operation : Operation) : busy.state.cluster.Plain operation :=
    ScriptedCluster.Plain.failNext nofun rfl
  obtain ⟨result, outcome, after, -, ended, finishes⟩ := run_again plain "web" .never .never []
  have reported : (run Rehearsal.client .never "web"
    (runs Rehearsal.client "web" [.never] busy)).1 = some (.ok ⟨true, ["ca"]⟩) := rfl
  rw [ended] at reported
  cases reported
  have collected : "ca" ∈ collected "web" busy.state.cluster := List.mem_singleton_self _
  exact ⟨plain, rfl, rfl, after, ended, (finishes _ rfl).1 "ca" collected
    (.inr (.inl (List.mem_singleton_self _))) []⟩

/-- A service whose container cannot be removed at first. -/
private def jammed : World Rehearsal :=
  ⟨0, .instant (((ScriptedCluster.ofFrames [lodging "ca"]).addContainer "ca" .lingers).failNext
    .removeContainer (.api 500 "boom")), []⟩

/-- A service that cannot be removed at first, and whose task moves on to another container. -/
private def moving : World Rehearsal :=
  ⟨0, .instant ((((ScriptedCluster.ofFrames [lodging "ca", lodging "cb"]).addContainer
    "ca" .lingers).addContainer "cb" .lingers).failNext .removeService (.api 503 "busy")), []⟩

/-- A teardown that ends well can leave what the first one had to reap: when the service was removed
by then, and when its tasks have changed. -/
theorem run_again_leaving :
    ((∀ operation, jammed.state.cluster.Plain operation) ∧
      collected "web" jammed.state.cluster = ["ca"] ∧
      (run Rehearsal.client .never "web" jammed).1 = some (.error (.api 500 "boom")) ∧
      ∃ after, run Rehearsal.client .never "web" (runs Rehearsal.client "web" [.never] jammed) =
          (some (.ok nothing), after) ∧
        after.state.cluster.container? "ca" = some .lingers) ∧
    (∀ operation, moving.state.cluster.Plain operation) ∧
      collected "web" moving.state.cluster = ["ca"] ∧
      (run Rehearsal.client .never "web" moving).1 = some (.error (.api 503 "busy")) ∧
      ∃ after, run Rehearsal.client .never "web" (runs Rehearsal.client "web" [.never] moving) =
          (some (.ok ⟨true, ["cb"]⟩), after) ∧
        after.state.cluster.container? "ca" = some .lingers := by
  have jams (operation : Operation) : jammed.state.cluster.Plain operation :=
    ScriptedCluster.Plain.failNext nofun rfl
  have moves (operation : Operation) : moving.state.cluster.Plain operation :=
    ScriptedCluster.Plain.failNext nofun rfl
  exact ⟨⟨jams, rfl, rfl, _, rfl, rfl⟩, moves, rfl, rfl, _, rfl, rfl⟩

end Teardown

end ReplicaWatch
