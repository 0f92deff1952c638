import ReplicaWatch.Proofs.Teardown.Containers
import ReplicaWatch.Proofs.Teardown.Logging

/-! # The course of a teardown

A teardown inspects its service, lists the tasks if the service has a grace period, removes the
service and then reaps the containers one after another. What is gone already does not stop it,
and any other failure does, except that of a grace wait (`Teardown.Course`). Its report tells what
was answered (`Teardown.run_in_order`).
-/

namespace ReplicaWatch.Teardown

variable {σ : Type} {fired : Prop} {id container : String} {containers : List String}
  {report : TeardownReport} {log waits : List Call.Entry}
  {outcome : Option (Except ClusterError TeardownReport)}

/-- What comes before the removal of a container: one wait, however it ends, or none when the
token fires. -/
inductive Grace (fired : Prop) (container : String) : List Call.Entry → Prop where
  | awaited (reply : Option (Call.waitContainerRemoved container).Answer) :
      Grace fired container [⟨.waitContainerRemoved container, reply⟩]
  | skipped (fires : fired) : Grace fired container []

/-- The removal of a container by force, and its answer. -/
def reapEntry (container : String) (answer : Option (Except ClusterError Unit)) : Call.Entry :=
  ⟨.removeContainer container .forced, answer⟩

/-- The removal of a service, and its answer. -/
def removalEntry (id : String) (answer : Option (Except ClusterError Unit)) : Call.Entry :=
  ⟨.removeService id, answer⟩

/-- The log of reaping containers on top of a report, and what comes of it. -/
inductive Reaping (fired : Prop) : List String → TeardownReport → List Call.Entry →
    Option (Except ClusterError TeardownReport) → Prop where
  | done (report : TeardownReport) : Reaping fired [] report [] (some (.ok report))
  | removed {container : String} {rest : List String} {report : TeardownReport}
      {waits log : List Call.Entry} {outcome : Option (Except ClusterError TeardownReport)}
      (grace : Grace fired container waits)
      (reaping : Reaping fired rest
        { report with containersRemoved := report.containersRemoved ++ [container] } log outcome) :
      Reaping fired (container :: rest) report
        (waits ++ reapEntry container (some (.ok ())) :: log) outcome
  | gone {container : String} {rest : List String} {report : TeardownReport}
      {waits log : List Call.Entry} {outcome : Option (Except ClusterError TeardownReport)}
      {error : ClusterError} (grace : Grace fired container waits)
      (gone : error.isAlreadyGone = true) (reaping : Reaping fired rest report log outcome) :
      Reaping fired (container :: rest) report
        (waits ++ reapEntry container (some (.error error)) :: log) outcome
  | failed {container : String} {rest : List String} {report : TeardownReport}
      {waits : List Call.Entry} {error : ClusterError} (grace : Grace fired container waits)
      (fatal : error.isAlreadyGone = false) :
      Reaping fired (container :: rest) report
        (waits ++ [reapEntry container (some (.error error))]) (some (.error error))
  | silent {container : String} {rest : List String} {report : TeardownReport}
      {waits : List Call.Entry} (grace : Grace fired container waits) :
      Reaping fired (container :: rest) report (waits ++ [reapEntry container none]) none

/-- The log of removing a service and reaping its containers, and what comes of it. -/
inductive Removal (fired : Prop) (id : String) (containers : List String) :
    List Call.Entry → Option (Except ClusterError TeardownReport) → Prop where
  | removed {log : List Call.Entry} {outcome : Option (Except ClusterError TeardownReport)}
      (reaping : Reaping fired containers ⟨true, []⟩ log outcome) :
      Removal fired id containers (removalEntry id (some (.ok ())) :: log) outcome
  | gone {log : List Call.Entry} {outcome : Option (Except ClusterError TeardownReport)}
      {error : ClusterError} (gone : error.isAlreadyGone = true)
      (reaping : Reaping fired containers ⟨false, []⟩ log outcome) :
      Removal fired id containers (removalEntry id (some (.error error)) :: log) outcome
  | failed {error : ClusterError} (fatal : error.isAlreadyGone = false) :
      Removal fired id containers [removalEntry id (some (.error error))] (some (.error error))
  | silent : Removal fired id containers [removalEntry id none] none

/-- **The course of a teardown.** The containers that it has to reap, its log, and what comes of
it. -/
inductive Course (fired : Prop) (id : String) :
    List String → List Call.Entry → Option (Except ClusterError TeardownReport) → Prop where
  | silent : Course fired id [] [⟨.inspectService id, none⟩] none
  | gone {error : ClusterError} (gone : error.isAlreadyGone = true) :
      Course fired id [] [⟨.inspectService id, some (.error error)⟩] (some (.ok nothing))
  | uninspected {error : ClusterError} (fatal : error.isAlreadyGone = false) :
      Course fired id [] [⟨.inspectService id, some (.error error)⟩] (some (.error error))
  | graceless {service : Service} {log : List Call.Entry}
      {outcome : Option (Except ClusterError TeardownReport)}
      (graceless : service.gracePeriod? = none) (removal : Removal fired id [] log outcome) :
      Course fired id [] (⟨.inspectService id, some (.ok service)⟩ :: log) outcome
  | unlistable {service : Service} {grace : Duration}
      (graced : service.gracePeriod? = some grace) :
      Course fired id []
        [⟨.inspectService id, some (.ok service)⟩, ⟨.listTasks (.all id), none⟩] none
  | unlisted {service : Service} {grace : Duration}
      (graced : service.gracePeriod? = some grace) (error : ClusterError) :
      Course fired id []
        [⟨.inspectService id, some (.ok service)⟩, ⟨.listTasks (.all id), some (.error error)⟩]
        (some (.error error))
  | listed {service : Service} {grace : Duration} {tasks : List Task} {containers : List String}
      {log : List Call.Entry} {outcome : Option (Except ClusterError TeardownReport)}
      (graced : service.gracePeriod? = some grace) (collects : Collects tasks containers)
      (removal : Removal fired id containers log outcome) :
      Course fired id containers
        (⟨.inspectService id, some (.ok service)⟩ ::
          ⟨.listTasks (.all id), some (.ok tasks)⟩ :: log) outcome

/-- The grace of a container logs its waits, and the rest comes behind them. -/
theorem Logs.graced {α : Type} {container : String} {period : Duration}
    {next : Unit → Dialogue Move Move.Answer α} {result : Option α}
    (logs : Logs fired (.ask (.grace container period) next) log result) :
    ∃ waits rest, log = waits ++ rest ∧ Grace fired container waits ∧
      Logs fired (next ()) rest result := by
  cases logs with
  | awaited reply rest => exact ⟨[_], _, rfl, .awaited reply, rest⟩
  | skipped fires rest => exact ⟨[], _, rfl, .skipped fires, rest⟩

/-- Whatever reaping logs, and however it is answered, is a course of reaping. -/
theorem reap_logs {grace : Duration}
    (logs : Logs fired (reap grace containers report) log outcome) :
    Reaping fired containers report log outcome := by
  induction containers generalizing report log with
  | nil =>
    cases logs
    exact .done report
  | cons container rest ih =>
    obtain ⟨waits, log, rfl, graced, logs⟩ := logs.graced
    cases logs with
    | silent => exact .silent graced
    | answered removed logs =>
      cases removed with
      | ok done => exact .removed graced (ih logs)
      | error error =>
        dsimp only at logs
        split at logs
        · next gone => exact .gone graced gone (ih logs)
        · next fatal =>
          cases logs
          exact .failed graced (Bool.eq_false_iff.mpr fatal)

/-- And so it is with the removal and the reaping behind it. -/
theorem removal_logs {grace : Duration}
    (logs : Logs fired (removal id grace containers) log outcome) :
    Removal fired id containers log outcome := by
  cases logs with
  | silent => exact .silent
  | answered removed logs =>
    cases removed with
    | ok done => exact .removed (reap_logs logs)
    | error error =>
      dsimp only at logs
      split at logs
      · next gone => exact .gone gone (reap_logs logs)
      · next fatal =>
        cases logs
        exact .failed (Bool.eq_false_iff.mpr fatal)

/-- **What a teardown logs.** -/
theorem dialogue_logs (logs : Logs fired (dialogue id) log outcome) :
    ∃ containers, Course fired id containers log outcome := by
  cases logs with
  | silent => exact ⟨[], .silent⟩
  | answered inspected logs =>
    cases inspected with
    | error error =>
      cases logs
      split
      · next gone => exact ⟨[], .gone gone⟩
      · next fatal => exact ⟨[], .uninspected (Bool.eq_false_iff.mpr fatal)⟩
    | ok service =>
      dsimp only at logs
      split at logs
      · next graceless => exact ⟨[], .graceless graceless (removal_logs logs)⟩
      · next grace graced =>
        cases logs with
        | silent => exact ⟨[], .unlistable graced⟩
        | answered listed logs =>
          cases listed with
          | error error =>
            cases logs
            exact ⟨[], .unlisted graced error⟩
          | ok tasks =>
            exact ⟨_, .listed graced (liveContainers_collects tasks) (removal_logs logs)⟩

/-- In a grace all calls are waits. -/
theorem Grace.operation_eq (grace : Grace fired container waits) {entry : Call.Entry}
    (member : entry ∈ waits) : entry.1.operation = .waitContainerRemoved := by
  cases grace with
  | awaited => rw [List.mem_singleton.mp member]; rfl
  | skipped => cases member

/-- Where a container is removed, no other container is, and no service. -/
theorem Grace.mem_iff (grace : Grace fired container waits) {entry : Call.Entry}
    (other : entry.1.operation ≠ .waitContainerRemoved)
    (answer : Option (Except ClusterError Unit)) :
    entry ∈ waits ++ reapEntry container answer :: log ↔
      entry = reapEntry container answer ∨ entry ∈ log := by
  rw [List.mem_append, List.mem_cons, or_iff_right]
  intro waited
  exact other (grace.operation_eq waited)

/-- A successful removal tells which container it removed. -/
theorem reapEntry_ok_iff {other : String} {answer : Option (Except ClusterError Unit)} :
    reapEntry other (some (.ok ())) = reapEntry container answer ↔
      other = container ∧ answer = some (.ok ()) := by
  constructor
  · intro same
    cases same
    exact ⟨rfl, rfl⟩
  · rintro ⟨rfl, rfl⟩
    rfl

/-- Reaping removes no service. -/
theorem Reaping.removalEntry_not_mem (reaping : Reaping fired containers report log outcome)
    (answer : Option (Except ClusterError Unit)) : removalEntry id answer ∉ log := by
  have other (container : String) (answer' : Option (Except ClusterError Unit)) :
      removalEntry id answer ≠ reapEntry container answer' := nofun
  have unawaited : (removalEntry id answer).1.operation ≠ .waitContainerRemoved := nofun
  induction reaping with
  | done => exact List.not_mem_nil
  | removed grace _ ih =>
    rw [grace.mem_iff unawaited, or_iff_right (other _ _)]
    exact ih
  | gone grace _ _ ih =>
    rw [grace.mem_iff unawaited, or_iff_right (other _ _)]
    exact ih
  | failed grace =>
    rw [grace.mem_iff unawaited, or_iff_right (other _ _)]
    exact List.not_mem_nil
  | silent grace =>
    rw [grace.mem_iff unawaited, or_iff_right (other _ _)]
    exact List.not_mem_nil

/-- **The report of a reaping.** The containers whose removal succeeded are added to it. -/
theorem Reaping.report_eq {final : TeardownReport}
    (reaping : Reaping fired containers report log (some (.ok final))) :
    ∃ removed, removed.Sublist containers ∧
      final = { report with containersRemoved := report.containersRemoved ++ removed } ∧
      ∀ container, container ∈ removed ↔ reapEntry container (some (.ok ())) ∈ log := by
  have unawaited (container : String) :
      (reapEntry container (some (.ok ()))).1.operation ≠ .waitContainerRemoved := nofun
  generalize finished : some (Except.ok final) = outcome at reaping
  -- The answers tell what was removed, so the induction is on the log, not on the containers.
  induction reaping with
  | done report =>
    cases finished
    exact ⟨[], .slnil, by rw [List.append_nil], by simp only [List.not_mem_nil, implies_true]⟩
  | @removed head _ _ _ _ _ grace reaping ih =>
    obtain ⟨removed, within, rfl, told⟩ := ih finished
    refine ⟨head :: removed, within.cons_cons head, ?_, ?_⟩
    · simp only [List.append_assoc, List.singleton_append]
    · intro container
      rw [grace.mem_iff (unawaited container), reapEntry_ok_iff, List.mem_cons, told]
      simp only [and_true]
  | gone grace _ reaping ih =>
    obtain ⟨removed, within, rfl, told⟩ := ih finished
    refine ⟨removed, within.cons _, rfl, ?_⟩
    intro container
    rw [grace.mem_iff (unawaited container), reapEntry_ok_iff, told, or_iff_right nofun]
  | failed => cases finished
  | silent => cases finished

/-- A report tells what was answered. -/
structure Told (id : String) (containers : List String) (log : List Call.Entry)
    (report : TeardownReport) : Prop where
  serviceRemoved : report.serviceRemoved = true ↔ removalEntry id (some (.ok ())) ∈ log
  sublist : report.containersRemoved.Sublist containers
  mem_iff : ∀ container, container ∈ report.containersRemoved ↔
    container ∈ containers ∧ reapEntry container (some (.ok ())) ∈ log

/-- A report tells nothing of the calls that only read. -/
theorem Told.read (told : Told id containers log report) {entry : Call.Entry}
    (reads : entry.1.operation.isRead = true) : Told id containers (entry :: log) report where
  serviceRemoved := by
    rw [told.serviceRemoved, List.mem_cons, or_iff_right]
    rintro rfl
    cases reads
  sublist := told.sublist
  mem_iff container := by
    rw [told.mem_iff, List.mem_cons, or_iff_right]
    rintro rfl
    cases reads

/-- No calls are told by no report. -/
theorem told_nothing (id : String) : Told id [] [] nothing where
  serviceRemoved := by simp only [nothing, Bool.false_eq_true, List.not_mem_nil]
  sublist := .slnil
  mem_iff container := by simp only [nothing, List.not_mem_nil, false_and]

/-- Reaping tells its report when what was told before is that of the service's removal. -/
theorem Reaping.told {answer : Option (Except ClusterError Unit)} {serviceRemoved : Bool}
    (reaping : Reaping fired containers ⟨serviceRemoved, []⟩ log (some (.ok report)))
    (answered : serviceRemoved = true ↔ answer = some (.ok ())) :
    Told id containers (removalEntry id answer :: log) report := by
  obtain ⟨removed, within, rfl, told⟩ := reaping.report_eq
  refine ⟨?_, ?_, ?_⟩
  · rw [List.mem_cons, or_iff_left (reaping.removalEntry_not_mem _)]
    dsimp only
    rw [answered]
    constructor
    · rintro rfl
      rfl
    · intro same
      cases same
      rfl
  · exact within
  · intro container
    rw [List.mem_cons, or_iff_right nofun, ← told]
    exact ⟨fun member => ⟨within.subset member, member⟩, And.right⟩

/-- **The report tells what happened.** It names the service and the containers that were removed by
calls of the log, and no others. -/
theorem Removal.told (removal : Removal fired id containers log (some (.ok report))) :
    Told id containers log report := by
  cases removal with
  | removed reaping => exact reaping.told (by simp only)
  | gone gone reaping => exact reaping.told (by simp)

/-- **The report of a teardown.** -/
theorem Course.told (course : Course fired id containers log (some (.ok report))) :
    Told id containers log report := by
  cases course with
  | gone => exact (told_nothing id).read rfl
  | graceless _ removal => exact removal.told.read rfl
  | listed _ _ removal => exact (removal.told.read rfl).read rfl

/-- **Tearing down on the log.** A teardown with a logged client is the teardown with the client,
and leaves the log of its course. -/
theorem run_logged (client : Client σ) (token : Token) (id : String) (w : World σ) :
    ∃ outcome after containers log, run client token id w = (outcome, after) ∧
      run client.logged token id (w.logged []) = (outcome, after.logged log) ∧
      (w.logged []).Logs (after.logged log) log ∧
      Course (token.hasFired after.now = true) id containers log outcome := by
  have seen := run_view client.logged_view token id (w.logged [])
  rw [World.map_logged] at seen
  rcases torn : run client.logged token id (w.logged []) with ⟨outcome, after⟩
  rw [torn] at seen
  obtain ⟨log, logs, plays⟩ := play_logs torn
  obtain ⟨containers, course⟩ := dialogue_logs plays
  have kept : (after.map Prod.fst).logged log = after := logs.logged_eq
  refine ⟨outcome, after.map Prod.fst, containers, log, seen, ?_, ?_, course⟩
  · rw [kept]
  · rwa [kept]

/-- A teardown begins with an inspection of its service. -/
theorem run_begins (client : Client σ) (token : Token) (id : String) (w : World σ) :
    ∃ rest, (w.callsUntil (run client token id w).2).map Prod.snd =
      .inspectService id :: rest := by
  obtain ⟨outcome, after, containers, log, torn, _, logs, course⟩ := run_logged client token id w
  have unhurried := run_unhurried client token id w
  rw [torn] at unhurried ⊢
  rw [logs.callsUntil_eq unhurried]
  cases course <;> exact ⟨_, rfl⟩

/-- **A teardown keeps its order.** Whatever it is answered, the calls of a teardown follow its
course, on which it stops at the first failure that matters. A wait for a container is begun only
while the token has not fired, and left out only when it fires. A teardown that ends well reports
what was removed: the service, if its removal succeeded, and of the containers that were to be
reaped exactly those whose removal succeeded, in their order. -/
theorem run_in_order (client : Client σ) (token : Token) (id : String) (w : World σ) :
    ∃ outcome after containers log, run client token id w = (outcome, after) ∧
      run client.logged token id (w.logged []) = (outcome, after.logged log) ∧
      (w.callsUntil after).map Prod.snd = log.map Sigma.fst ∧
      Course (token.hasFired after.now = true) id containers log outcome ∧
      (∀ made ∈ w.callsUntil after,
        made.2.operation = .waitContainerRemoved → token.hasFired made.1 = false) ∧
      ∀ report, outcome = some (.ok report) →
        (report.serviceRemoved = true ↔
          (⟨.removeService id, some (.ok ())⟩ : Call.Entry) ∈ log) ∧
        report.containersRemoved.Sublist containers ∧
        ∀ container, container ∈ report.containersRemoved ↔ container ∈ containers ∧
          (⟨.removeContainer container .forced, some (.ok ())⟩ : Call.Entry) ∈ log := by
  obtain ⟨outcome, after, containers, log, torn, ran, logs, course⟩ :=
    run_logged client token id w
  have unhurried := run_unhurried client token id w
  rw [torn] at unhurried
  refine ⟨outcome, after, containers, log, torn, ran, logs.callsUntil_eq unhurried, course, ?_, ?_⟩
  · intro made member
    exact (unhurried.mem_callsUntil member).2.2
  · rintro report rfl
    have told := course.told
    exact ⟨told.serviceRemoved, told.sublist, told.mem_iff⟩

end ReplicaWatch.Teardown
