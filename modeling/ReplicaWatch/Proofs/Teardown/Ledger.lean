import ReplicaWatch.Proofs.Cluster.Holding
import ReplicaWatch.Proofs.Teardown.Course

/-! # What the log of a teardown tells

The containers of a course are those of the listing in its log (`Course.collects`), and no call of
it names another one (`Course.container_mem`). A course that ends well has had each of them removed,
or was told that it is gone (`Course.reaped`). A course that ends with an error has logged it, and
the error does not mean that something is gone unless the listing was answered with it
(`Course.error_logged`).
-/

namespace ReplicaWatch.Teardown

variable {fired : Prop} {id container : String} {containers : List String} {tasks : List Task}
  {service : Service} {report : TeardownReport} {log waits : List Call.Entry} {entry : Call.Entry}
  {error : ClusterError} {outcome : Option (Except ClusterError TeardownReport)}

/-- Each call names one of some containers. -/
def Names (containers : List String) (log : List Call.Entry) : Prop :=
  ∀ entry ∈ log, ∃ container ∈ containers, entry.1.container? = some container

/-- Each of some containers was removed, or found to be gone. -/
def Settles (containers : List String) (log : List Call.Entry) : Prop :=
  ∀ container ∈ containers, ∃ answer, reapEntry container answer ∈ log ∧
    (reapEntry container answer).Tolerable

theorem names_nil (containers : List String) : Names containers [] :=
  fun _ member => absurd member List.not_mem_nil

theorem settles_nil (log : List Call.Entry) : Settles [] log :=
  fun _ member => absurd member List.not_mem_nil

/-- A wait for the end of a container names it. -/
theorem Grace.container?_eq (grace : Grace fired container waits) (member : entry ∈ waits) :
    entry.1.container? = some container := by
  cases grace with
  | awaited => rw [List.mem_singleton.mp member]; rfl
  | skipped => cases member

/-- A container that is waited for and removed is one more that is named. -/
theorem Grace.names {answer : Option (Except ClusterError Unit)}
    (grace : Grace fired container waits) (rest : Names containers log) :
    Names (container :: containers) (waits ++ reapEntry container answer :: log) := by
  intro entry member
  rcases List.mem_append.mp member with waited | member
  · exact ⟨container, List.mem_cons_self, grace.container?_eq waited⟩
  · rcases List.mem_cons.mp member with rfl | later
    · exact ⟨container, List.mem_cons_self, rfl⟩
    · obtain ⟨other, within, named⟩ := rest entry later
      exact ⟨other, List.mem_cons_of_mem _ within, named⟩

/-- A reaping names no container but its own. -/
theorem Reaping.names (reaping : Reaping fired containers report log outcome) :
    Names containers log := by
  induction reaping with
  | done => exact names_nil []
  | removed grace _ ih => exact grace.names ih
  | gone grace _ _ ih => exact grace.names ih
  | failed grace => exact grace.names (names_nil _)
  | silent grace => exact grace.names (names_nil _)

/-- Calls that were made before take nothing back. -/
theorem Settles.append (settles : Settles containers log) (earlier : List Call.Entry) :
    Settles containers (earlier ++ log) := by
  intro container member
  obtain ⟨answer, logged, tolerable⟩ := settles container member
  exact ⟨answer, List.mem_append_right _ logged, tolerable⟩

/-- A removal that was answered tolerably settles with one more container. -/
theorem Settles.cons {answer : Option (Except ClusterError Unit)} (settles : Settles containers log)
    (tolerable : (reapEntry container answer).Tolerable) :
    Settles (container :: containers) (reapEntry container answer :: log) := by
  intro other member
  rcases List.mem_cons.mp member with rfl | later
  · exact ⟨answer, List.mem_cons_self, tolerable⟩
  · exact settles.append [_] other later

/-- A reaping that ends well has settled with each of its containers. -/
theorem Reaping.reaped (reaping : Reaping fired containers report log outcome)
    {final : TeardownReport} (ended : outcome = some (.ok final)) : Settles containers log := by
  induction reaping with
  | done => exact settles_nil []
  | removed _ _ ih =>
    apply ((ih ended).cons _).append
    exact ⟨_, rfl, nofun⟩
  | gone _ gone _ ih =>
    apply ((ih ended).cons _).append
    refine ⟨_, rfl, ?_⟩
    rintro _ ⟨⟩
    exact gone
  | failed => cases ended
  | silent => cases ended

/-- A reaping that fails does so with the answer to one of its calls, which does not mean that
something is gone. -/
theorem Reaping.error_logged (reaping : Reaping fired containers report log outcome)
    (failed : outcome = some (.error error)) :
    error.isAlreadyGone = false ∧ ∃ call, (⟨call, some (.error error)⟩ : Call.Entry) ∈ log := by
  induction reaping with
  | done => cases failed
  | removed _ _ ih =>
    obtain ⟨fatal, call, logged⟩ := ih failed
    exact ⟨fatal, call, List.mem_append_right _ (List.mem_cons_of_mem _ logged)⟩
  | gone _ _ _ ih =>
    obtain ⟨fatal, call, logged⟩ := ih failed
    exact ⟨fatal, call, List.mem_append_right _ (List.mem_cons_of_mem _ logged)⟩
  | failed grace fatal =>
    cases failed
    exact ⟨fatal, _, List.mem_append_right _ List.mem_cons_self⟩
  | silent => cases failed

/-- A removal removes its service first, and then names no container but its own. -/
theorem Removal.split (removal : Removal fired id containers log outcome) :
    ∃ answer rest, log = removalEntry id answer :: rest ∧ Names containers rest := by
  cases removal with
  | removed reaping => exact ⟨_, _, rfl, reaping.names⟩
  | gone _ reaping => exact ⟨_, _, rfl, reaping.names⟩
  | failed => exact ⟨_, _, rfl, names_nil _⟩
  | silent => exact ⟨_, _, rfl, names_nil _⟩

/-- Reading names no container. -/
theorem container?_of_isRead {call : Call} (read : call.operation.isRead = true) :
    call.container? = none := by
  cases call with
  | removeContainer => cases read
  | waitContainerRemoved => cases read
  | _ => rfl

/-- What is read is read before the removal. -/
theorem Removal.mem_of_read (removal : Removal fired id containers log outcome)
    (reads : List Call.Entry) (member : entry ∈ reads ++ log)
    (read : entry.1.operation.isRead = true) : entry ∈ reads := by
  rcases List.mem_append.mp member with early | late
  · exact early
  · obtain ⟨answer, rest, rfl, names⟩ := removal.split
    rcases List.mem_cons.mp late with rfl | later
    · cases read
    · obtain ⟨container, -, named⟩ := names entry later
      rw [container?_of_isRead read] at named
      cases named

/-- Only a removal of a service removes one. -/
theorem removedService?_of_other (other : entry.1.operation ≠ .removeService) :
    entry.removedService? = none := by
  obtain ⟨call, answer⟩ := entry
  cases call with
  | removeService => exact absurd rfl other
  | _ => rfl

/-- A reaping removes no services. -/
theorem Reaping.removedServices_eq (reaping : Reaping fired containers report log outcome) :
    log.filterMap Call.Entry.removedService? = [] := by
  rw [List.filterMap_eq_nil_iff]
  intro entry member
  apply removedService?_of_other
  intro removes
  obtain ⟨container, -, named⟩ := reaping.names entry member
  obtain ⟨call, answer⟩ := entry
  cases call with
  | removeService => cases named
  | _ => cases removes

/-- A removal that ends well removes the service, if it reports so, and no other. -/
theorem Removal.removedServices_eq (removal : Removal fired id containers log (some (.ok report))) :
    log.filterMap Call.Entry.removedService? = if report.serviceRemoved then [id] else [] := by
  cases removal with
  | removed reaping =>
    obtain ⟨_, _, rfl, _⟩ := reaping.report_eq
    exact congrArg (id :: ·) reaping.removedServices_eq
  | gone _ reaping =>
    obtain ⟨_, _, rfl, _⟩ := reaping.report_eq
    exact reaping.removedServices_eq

/-- A removal that ends well has settled with each of its containers. -/
theorem Removal.reaped (removal : Removal fired id containers log (some (.ok report))) :
    Settles containers log := by
  cases removal with
  | removed reaping => exact (reaping.reaped rfl).append [_]
  | gone _ reaping => exact (reaping.reaped rfl).append [_]

/-- A removal that fails does so with the answer to one of its calls, which does not mean that
something is gone. -/
theorem Removal.error_logged (removal : Removal fired id containers log (some (.error error))) :
    error.isAlreadyGone = false ∧ ∃ call, (⟨call, some (.error error)⟩ : Call.Entry) ∈ log := by
  cases removal with
  | removed reaping =>
    obtain ⟨fatal, call, logged⟩ := reaping.error_logged rfl
    exact ⟨fatal, call, List.mem_cons_of_mem _ logged⟩
  | gone _ reaping =>
    obtain ⟨fatal, call, logged⟩ := reaping.error_logged rfl
    exact ⟨fatal, call, List.mem_cons_of_mem _ logged⟩
  | failed fatal => exact ⟨fatal, _, List.mem_cons_self⟩

namespace Course

/-- A course reads, and then it is over or removes. -/
theorem split (course : Course fired id containers log outcome) :
    ∃ reads rest, log = reads ++ rest ∧
      (∀ entry ∈ reads, entry.1.operation.isRead = true) ∧
      (rest = [] ∧ containers = [] ∨ Removal fired id containers rest outcome) := by
  have inspection {answer : Option (Call.inspectService id).Answer} :
      ∀ entry ∈ [(⟨.inspectService id, answer⟩ : Call.Entry)],
        entry.1.operation.isRead = true := by
    intro entry member
    rw [List.mem_singleton.mp member]
    rfl
  have listing {answer : Option (Call.inspectService id).Answer}
      {listed : Option (Call.listTasks (.all id)).Answer} :
      ∀ entry ∈ [(⟨.inspectService id, answer⟩ : Call.Entry), ⟨.listTasks (.all id), listed⟩],
        entry.1.operation.isRead = true := by
    intro entry member
    rcases List.mem_cons.mp member with rfl | member
    · rfl
    · rw [List.mem_singleton.mp member]
      rfl
  cases course with
  | silent => exact ⟨_, [], rfl, inspection, .inl ⟨rfl, rfl⟩⟩
  | gone => exact ⟨_, [], rfl, inspection, .inl ⟨rfl, rfl⟩⟩
  | uninspected => exact ⟨_, [], rfl, inspection, .inl ⟨rfl, rfl⟩⟩
  | graceless _ removal => exact ⟨[_], _, rfl, inspection, .inr removal⟩
  | unlistable => exact ⟨_, [], rfl, listing, .inl ⟨rfl, rfl⟩⟩
  | unlisted => exact ⟨_, [], rfl, listing, .inl ⟨rfl, rfl⟩⟩
  | listed _ _ removal => exact ⟨[_, _], _, rfl, listing, .inr removal⟩

/-- A course names no container but those that it collected. -/
theorem container_mem (course : Course fired id containers log outcome) (member : entry ∈ log)
    (named : entry.1.container? = some container) : container ∈ containers := by
  obtain ⟨reads, rest, rfl, read, ended⟩ := course.split
  rcases List.mem_append.mp member with early | late
  · rw [container?_of_isRead (read entry early)] at named
    cases named
  · rcases ended with ⟨rfl, -⟩ | removal
    · cases late
    · obtain ⟨answer, rest, rfl, names⟩ := removal.split
      rcases List.mem_cons.mp late with rfl | later
      · cases named
      · obtain ⟨other, within, same⟩ := names entry later
        rw [named, Option.some.injEq] at same
        exact same ▸ within

/-- The containers of a course are those of its listing. -/
theorem collects (course : Course fired id containers log outcome)
    (listed : (⟨.listTasks (.all id), some (.ok tasks)⟩ : Call.Entry) ∈ log) :
    Collects tasks containers := by
  cases course with
  | graceless _ removal => cases List.mem_singleton.mp (removal.mem_of_read [_] listed rfl)
  | listed _ collects removal =>
    rcases List.mem_cons.mp (removal.mem_of_read [_, _] listed rfl) with same | later
    · cases same
    · cases List.mem_singleton.mp later
      exact collects
  | _ => simp at listed

/-- Without a grace period there is no container to be reaped. -/
theorem eq_nil_of_graceless (course : Course fired id containers log outcome)
    (inspected : (⟨.inspectService id, some (.ok service)⟩ : Call.Entry) ∈ log)
    (graceless : service.gracePeriod? = none) : containers = [] := by
  cases course with
  | listed graced _ removal =>
    rcases List.mem_cons.mp (removal.mem_of_read [_, _] inspected rfl) with same | later
    · cases same
      rw [graced] at graceless
      cases graceless
    · cases List.mem_singleton.mp later
  | _ => rfl

/-- A course that ends well has settled with each of its containers. -/
theorem reaped (course : Course fired id containers log (some (.ok report))) :
    Settles containers log := by
  obtain ⟨reads, rest, rfl, -, ⟨-, rfl⟩ | removal⟩ := course.split
  · exact settles_nil _
  · exact removal.reaped.append reads

/-- A course that ends well removes the service, if it reports so, and no other. -/
theorem removedServices_eq (course : Course fired id containers log (some (.ok report))) :
    log.filterMap Call.Entry.removedService? = if report.serviceRemoved then [id] else [] := by
  cases course with
  | gone => rfl
  | graceless _ removal => exact removal.removedServices_eq
  | listed _ _ removal => exact removal.removedServices_eq

/-- An error that a course ends with is logged; if it means that something is gone, then it was the
answer of the listing. -/
theorem error_logged (course : Course fired id containers log (some (.error error))) :
    ∃ call, (⟨call, some (.error error)⟩ : Call.Entry) ∈ log ∧
      (error.isAlreadyGone = true → call = .listTasks (.all id)) := by
  have fatal {call : Call} (fatal : error.isAlreadyGone = false) :
      error.isAlreadyGone = true → call = .listTasks (.all id) := by
    intro gone
    rw [fatal] at gone
    cases gone
  cases course with
  | uninspected plain => exact ⟨_, List.mem_cons_self, fatal plain⟩
  | unlisted => exact ⟨_, List.mem_cons_of_mem _ List.mem_cons_self, fun _ => rfl⟩
  | graceless _ removal =>
    obtain ⟨plain, call, logged⟩ := removal.error_logged
    exact ⟨call, List.mem_cons_of_mem _ logged, fatal plain⟩
  | listed _ _ removal =>
    obtain ⟨plain, call, logged⟩ := removal.error_logged
    exact ⟨call, List.mem_cons_of_mem _ (List.mem_cons_of_mem _ logged), fatal plain⟩

/-- A course whose listing fails ends with that failure. -/
theorem of_unlisted (course : Course fired id containers log outcome)
    (unlisted : (⟨.listTasks (.all id), some (.error error)⟩ : Call.Entry) ∈ log) :
    outcome = some (.error error) := by
  cases course with
  | graceless _ removal => cases List.mem_singleton.mp (removal.mem_of_read [_] unlisted rfl)
  | listed _ _ removal =>
    rcases List.mem_cons.mp (removal.mem_of_read [_, _] unlisted rfl) with same | later
    · cases same
    · cases List.mem_singleton.mp later
  | unlisted =>
    rcases List.mem_cons.mp unlisted with same | later
    · cases same
    · cases List.mem_singleton.mp later
      rfl
  | _ => simp at unlisted

end Course

end ReplicaWatch.Teardown
