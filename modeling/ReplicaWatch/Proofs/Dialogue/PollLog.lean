import ReplicaWatch.Proofs.Clock.Logging

/-! # What a poll logs

A poll asks three questions one after another, each only when the one before was answered without
an error, and the last two only while no rollout decides the poll. Wherever it is given up or ends,
its log is one of `Session.PollLogs`. A poll that leaves the wait undecided has got all three
answers (`Session.Pends`).
-/

namespace ReplicaWatch

variable {α : Type}

/-- The log of a conversation. -/
def Call.Exchange.entry (exchange : Call.Exchange) : Call.Entry :=
  ⟨exchange.1, some exchange.2⟩

/-- A log with a result is the log of a conversation that came to that result. -/
theorem Dialogue.Logs.conversation {dialogue : Dialogue Call Call.Answer α}
    {entries : List Call.Entry} {result : α} (logs : dialogue.Logs entries (some result)) :
    ∃ exchanges, dialogue.Answered exchanges result ∧
      entries = exchanges.map Call.Exchange.entry := by
  generalize finished : some result = outcome at logs
  induction logs with
  | finished other =>
    cases finished
    exact ⟨[], .finish _, rfl⟩
  | unasked => cases finished
  | unanswered => cases finished
  | @answered call next entries outcome answer rest ih =>
    obtain ⟨exchanges, answered, rfl⟩ := ih finished
    exact ⟨⟨call, answer⟩ :: exchanges, .ask answer answered, rfl⟩

namespace Session

variable {mode : ConvergenceMode} {id : String} {timeout : Duration} {session after : Session}
  {entries : List Call.Entry}

/-- The calls of a poll, unless it is cut short. -/
def pollCalls (id : String) : List Call :=
  [.inspectService id, .listTasks (.running id), .listNodes]

/-- The logs that a poll can leave. The last call of each may have gone without an answer. -/
inductive PollLogs (mode : ConvergenceMode) (id : String) : List Call.Entry → Prop where
  | inspecting (inspected : Option (Call.inspectService id).Answer) :
      PollLogs mode id [⟨.inspectService id, inspected⟩]
  | listing {service : Service} {rollback : Bool}
      (verdict : mode.verdict service = .keepCounting rollback)
      (listed : Option (Call.listTasks (.running id)).Answer) :
      PollLogs mode id
        [⟨.inspectService id, some (.ok service)⟩, ⟨.listTasks (.running id), listed⟩]
  | counting {service : Service} {rollback : Bool}
      (verdict : mode.verdict service = .keepCounting rollback) (tasks : List Task)
      (listed : Option Call.listNodes.Answer) :
      PollLogs mode id
        [⟨.inspectService id, some (.ok service)⟩,
          ⟨.listTasks (.running id), some (.ok tasks)⟩, ⟨.listNodes, listed⟩]

/-- The logs of the polls that leave a wait undecided: no rollout decides, and the satisfied slots
are not as many as the replicas that are wanted. -/
inductive Pends (mode : ConvergenceMode) (id : String) : List Call.Entry → Prop where
  | unmet {service : Service} {rollback : Bool} {replicas : Nat} {tasks : List Task}
      {nodes : List Node} (verdict : mode.verdict service = .keepCounting rollback)
      (wanted : service.replicas? = some replicas)
      (unmet : (SlotMap.resolve tasks (.ofNodes nodes)).countRunning ≠ replicas) :
      Pends mode id
        [⟨.inspectService id, some (.ok service)⟩,
          ⟨.listTasks (.running id), some (.ok tasks)⟩, ⟨.listNodes, some (.ok nodes)⟩]

/-- A poll makes a call. -/
theorem PollLogs.ne_nil (logs : PollLogs mode id entries) : entries ≠ [] := by
  cases logs <;> exact List.cons_ne_nil _ _

/-- Its calls are made in one order, and may only be cut short. -/
theorem PollLogs.calls (logs : PollLogs mode id entries) :
    entries.map Sigma.fst <+: pollCalls id := by
  cases logs with
  | inspecting => exact ⟨[.listTasks (.running id), .listNodes], rfl⟩
  | listing => exact ⟨[.listNodes], rfl⟩
  | counting => exact List.prefix_rfl

/-- Just one of them is an inspection. -/
theorem PollLogs.countP_calls (logs : PollLogs mode id entries) :
    (entries.map Sigma.fst).countP (fun call => decide (call.operation = .inspectService)) = 1 := by
  cases logs <;> rfl

/-- A call of a poll is made only after the one before it has succeeded. -/
theorem PollLogs.succeeded (logs : PollLogs mode id entries) :
    ∀ entry ∈ entries.dropLast, entry.Succeeded := by
  intro entry member
  cases logs with
  | inspecting => cases member
  | @listing service =>
    rw [List.mem_singleton.mp member]
    exact ⟨service, rfl⟩
  | @counting service _ _ tasks =>
    rcases List.mem_cons.mp member with rfl | later
    · exact ⟨service, rfl⟩
    · rw [List.mem_singleton.mp later]
      exact ⟨tasks, rfl⟩

/-- A poll that leaves the wait undecided has made all its calls. -/
theorem Pends.calls (pends : Pends mode id entries) : entries.map Sigma.fst = pollCalls id := by
  cases pends
  rfl

theorem Pends.succeeded (pends : Pends mode id entries) :
    ∀ entry ∈ entries, entry.Succeeded := by
  intro entry member
  cases pends with
  | @unmet service _ _ tasks nodes =>
    rcases List.mem_cons.mp member with rfl | member
    · exact ⟨service, rfl⟩
    · rcases List.mem_cons.mp member with rfl | member
      · exact ⟨tasks, rfl⟩
      · rw [List.mem_singleton.mp member]
        exact ⟨nodes, rfl⟩

/-- Every way in which a poll can end leaves one of these logs. -/
theorem pollLogs_of_ends {exchanges : List Call.Exchange}
    {result : Except ConvergenceError Observation × Session}
    (ends : PollEnds mode id timeout session exchanges result) :
    PollLogs mode id (exchanges.map Call.Exchange.entry) := by
  cases ends with
  | uninspected source => exact .inspecting _
  | completed => exact .inspecting _
  | failed => exact .inspecting _
  | tasksUnlisted source verdict => exact .listing verdict _
  | nodesUnlisted tasks source verdict => exact .counting verdict tasks _
  | counted tasks nodes verdict => exact .counting verdict tasks _

/-- A poll that was finished without an error had all its calls succeed. -/
theorem succeeded_of_ends {exchanges : List Call.Exchange} {observation : Observation}
    (ends : PollEnds mode id timeout session exchanges (.ok observation, after)) :
    ∀ entry ∈ exchanges.map Call.Exchange.entry, entry.Succeeded := by
  generalize finished : (Except.ok observation, after) = result at ends
  intro entry member
  cases ends with
  | uninspected => cases finished
  | tasksUnlisted => cases finished
  | nodesUnlisted => cases finished
  | @completed service =>
    rw [List.mem_singleton.mp member]
    exact ⟨service, rfl⟩
  | @failed service =>
    rw [List.mem_singleton.mp member]
    exact ⟨service, rfl⟩
  | @counted service _ tasks nodes =>
    simp only [List.map_cons, List.map_nil, List.mem_cons, List.not_mem_nil, or_false] at member
    rcases member with rfl | rfl | rfl
    · exact ⟨service, rfl⟩
    · exact ⟨tasks, rfl⟩
    · exact ⟨nodes, rfl⟩

/-- A count is pending only when the satisfied slots are not as many as are wanted. -/
theorem count_pending {snapshot : Snapshot} {rollback : Bool} {observation : Observation}
    (counted : session.count snapshot rollback = (.ok observation, after))
    (pending : observation.outcome = .pending) :
    ∃ replicas, snapshot.service.replicas? = some replicas ∧
      (SlotMap.resolve snapshot.tasks (.ofNodes snapshot.nodes)).countRunning ≠ replicas := by
  obtain ⟨report, wanted, running, rfl⟩ := count_ok counted
  have unmet := Outcome.settle_eq_pending_iff.mp pending
  rw [Progress.isConverged, beq_eq_false_iff_ne, running] at unmet
  exact ⟨report.desired, wanted, unmet⟩

/-- A poll whose outcome is pending has met no decision. -/
theorem pends_of_ends {exchanges : List Call.Exchange} {observation : Observation}
    (ends : PollEnds mode id timeout session exchanges (.ok observation, after))
    (pending : observation.outcome = .pending) :
    Pends mode id (exchanges.map Call.Exchange.entry) := by
  generalize finished : (Except.ok observation, after) = result at ends
  cases ends with
  | uninspected => cases finished
  | tasksUnlisted => cases finished
  | nodesUnlisted => cases finished
  | completed => cases finished; cases pending
  | failed => cases finished; cases pending
  | counted tasks nodes verdict =>
    obtain ⟨replicas, wanted, unmet⟩ := count_pending finished.symm pending
    exact .unmet verdict wanted unmet

/-- **What a poll logs.** Nothing, if it was given up before its first call. -/
theorem poll_logs {result : Option (Except ConvergenceError Observation × Session)}
    (logs : (session.poll mode id timeout).Logs entries result) :
    entries = [] ∨ PollLogs mode id entries := by
  cases result with
  | some finished =>
    obtain ⟨exchanges, answered, rfl⟩ := logs.conversation
    exact .inr (pollLogs_of_ends (poll_ends answered))
  | none =>
    unfold poll at logs
    cases logs with
    | unasked => exact .inl rfl
    | unanswered => exact .inr (.inspecting none)
    | answered inspected rest =>
      right
      cases inspected with
      | error source => cases rest
      | ok service =>
        dsimp only at rest
        split at rest
        · cases rest
        · cases rest
        · next verdict =>
          cases rest with
          | unasked => exact .inspecting _
          | unanswered => exact .listing verdict none
          | answered listed rest =>
            cases listed with
            | error source => cases rest
            | ok tasks =>
              cases rest with
              | unasked => exact .listing verdict _
              | unanswered => exact .counting verdict tasks none
              | answered listed rest => cases listed <;> cases rest

end Session

end ReplicaWatch
