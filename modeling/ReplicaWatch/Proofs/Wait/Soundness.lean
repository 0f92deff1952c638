import ReplicaWatch.Convergence.Rehearsal
import ReplicaWatch.Proofs.Slots.Satisfaction
import ReplicaWatch.Proofs.Wait.Recording
import ReplicaWatch.Proofs.Wait.Timing

/-! # What a success rests on

A wait that succeeds had grounds to, in the very answers that its last poll was given
(`Wait.run_grounded`): either the orchestrator reported the update as completed, or the
rollout stood in nobody's way and exactly as many slots of the raw listing were satisfied as
replicas are wanted (`Wait.Grounds`). The answers are those on the record of the wait. A
success is never grounded in an update that was paused or rolled back.
-/

namespace ReplicaWatch

variable {σ : Type}

/-- The service that an exchange showed, if it inspected one. -/
def Call.inspected? : Call.Exchange → Option Service
  | ⟨.inspectService _, .ok service⟩ => some service
  | _ => none

/-- The service as it was inspected last. -/
def Call.lastInspected? (record : List Call.Exchange) : Option Service :=
  (record.filterMap inspected?).getLast?

namespace ConvergenceMode

variable {mode : ConvergenceMode} {service : Service}

/-- Only an update is ever completed by its rollout, once the service reports it so. -/
theorem completed_of_verdict (verdict : mode.verdict service = .completed) :
    mode = .updating ∧ service.rolloutState? = some .completed := by
  cases mode with
  | creating => cases verdict
  | updating =>
    refine ⟨rfl, ?_⟩
    simp only [ConvergenceMode.verdict, RolloutVerdict.assess] at verdict
    split at verdict
    · cases verdict
    · next status reported =>
      rw [Service.rolloutState?, reported, Option.map_some]
      cases state : status.state <;> simp only [state, reduceCtorEq] at verdict ⊢

/-- An update whose replicas are counted, but not those of a rollback, is under way or was
never reported. -/
theorem rollout_of_verdict (verdict : mode.verdict service = .keepCounting false)
    (updating : mode = .updating) :
    service.rolloutState? = none ∨ service.rolloutState? = some .updating := by
  subst updating
  simp only [ConvergenceMode.verdict, RolloutVerdict.assess] at verdict
  split at verdict
  · next unreported => exact .inl (by rw [Service.rolloutState?, unreported, Option.map_none])
  · next status reported =>
    right
    rw [Service.rolloutState?, reported, Option.map_some]
    cases state : status.state <;> simp [state] at verdict ⊢

end ConvergenceMode

/-- A count that converges found as many satisfied slots as replicas are wanted, outside of
any rollback, and reports so. -/
theorem Session.count_converged {session after : Session} {snapshot : Snapshot}
    {rollback : Bool} {observation : Observation}
    (counted : session.count snapshot rollback = (.ok observation, after))
    (converged : observation.outcome = .converged) :
    rollback = false ∧ snapshot.service.replicas? =
      some (SlotMap.resolve snapshot.tasks (.ofNodes snapshot.nodes)).countRunning ∧
    ∃ report, observation.progress = some report ∧ report.running = report.desired ∧
      snapshot.service.replicas? = some report.desired := by
  obtain ⟨report, wanted, running, rfl⟩ := Session.count_ok counted
  obtain ⟨enough, forward⟩ := Outcome.settle_eq_converged_iff.mp converged
  rw [Progress.isConverged, beq_iff_eq] at enough
  refine ⟨forward, ?_, report, rfl, enough, wanted⟩
  rw [wanted, ← enough, running]

namespace Wait

variable {wait : Wait} {client : Client σ} {token : Token} {started : Nat}

/-- **Grounds for success.** The answers of one poll that let a wait succeed, and the progress
that it then reports. -/
inductive Grounds (wait : Wait) : List Call.Exchange → Option Progress → Prop where
  /-- The orchestrator reports that the update is completed; nothing was counted. -/
  | completed {service : Service} (updating : wait.mode = .updating)
      (completed : service.rolloutState? = some .completed) :
      Grounds wait [⟨.inspectService wait.service, .ok service⟩] none
  /-- No rollout stands in the way, and as many slots are satisfied as replicas are wanted. -/
  | counted {service : Service} {tasks : List Task} {nodes : List Node} {replicas : Nat}
      {progress : Option Progress}
      (heeded : wait.mode = .updating →
        service.rolloutState? = none ∨ service.rolloutState? = some .updating)
      (wanted : service.replicas? = some replicas)
      (reported : ∃ report, progress = some report ∧ report.running = report.desired ∧
        service.replicas? = some report.desired)
      (satisfied : {slot | SlotSatisfied tasks (.ofNodes nodes) slot}.encard = replicas)
      (raw : (∀ task ∈ tasks, task.desired = .known .running) →
        ∀ slot, SlotSatisfied tasks (.ofNodes nodes) slot ↔ SlotRuns tasks nodes slot) :
      Grounds wait
        [⟨.inspectService wait.service, .ok service⟩,
          ⟨.listTasks (.running wait.service), .ok tasks⟩, ⟨.listNodes, .ok nodes⟩]
        progress

namespace Grounds

/-- The answers of a poll that converged are grounds for success. -/
theorem of_poll {session after : Session} {timeout : Duration} {observation : Observation}
    {exchanges : List Call.Exchange}
    (answered : (session.poll wait.mode wait.service timeout).Answered exchanges
      (.ok observation, after))
    (converged : observation.outcome = .converged) :
    wait.Grounds exchanges observation.progress := by
  have ends := Session.poll_ends answered
  generalize ended : (Except.ok observation, after) = result at ends
  cases ends with
  | uninspected => cases ended
  | completed verdict =>
    cases ended
    obtain ⟨updating, completed⟩ := ConvergenceMode.completed_of_verdict verdict
    exact .completed updating completed
  | failed => cases ended; cases converged
  | tasksUnlisted => cases ended
  | nodesUnlisted => cases ended
  | counted tasks nodes verdict =>
    obtain ⟨rfl, wanted, reported⟩ := Session.count_converged ended.symm converged
    exact .counted (ConvergenceMode.rollout_of_verdict verdict) wanted reported
      (SlotMap.encard_satisfied tasks (.ofNodes nodes))
      fun running slot => slotSatisfied_iff_of_wanted running

/-- The last inspection before a success did not show a rollout that failed or was undone. -/
theorem unfailed {earlier last : List Call.Exchange} {progress : Option Progress}
    (grounds : wait.Grounds last progress) :
    ∃ service, Call.lastInspected? (earlier ++ last) = some service ∧
      (wait.mode = .updating →
        ∀ state ∈ [RolloutState.paused, .rollbackStarted, .rollbackPaused, .rollbackCompleted],
          service.rolloutState? ≠ some state) := by
  cases grounds with
  | @completed service updating completed =>
    refine ⟨service, ?_, ?_⟩
    · rw [Call.lastInspected?, List.filterMap_append, List.getLast?_append]
      rfl
    · intro _
      rw [completed]
      decide
  | @counted service tasks nodes replicas _ heeded =>
    refine ⟨service, ?_, ?_⟩
    · rw [Call.lastInspected?, List.filterMap_append, List.getLast?_append]
      rfl
    · intro updating
      rcases heeded updating with unreported | underway
      · rw [unreported]
        decide
      · rw [underway]
        decide

end Grounds

/-- The record of a wait from the look at the number of replicas on; behind a success there
are grounds for it at the end. -/
def Turn.Grounded (wait : Wait) : Turn (σ × List Call.Exchange) → Prop
  | .ended (.error _, _) => True
  | .ended (.ok convergence, after) =>
    ∃ looked earlier last,
      after.state.2 = ⟨.inspectService wait.service, .ok looked⟩ :: earlier ++ last ∧
        wait.Grounds last convergence.progress
  | .again standing =>
    ∃ looked earlier,
      standing.world.state.2 = ⟨.inspectService wait.service, .ok looked⟩ :: earlier

/-- An opening that goes on has recorded just its look at the service. -/
theorem opening_grounded (wait : Wait) (client : Client σ) (token : Token) (w : World σ) :
    (wait.opening client.recorded token (w.recorded [])).Grounded wait := by
  have ends := opening_ends wait client.recorded token (w.recorded [])
  generalize wait.opening client.recorded token (w.recorded []) = turn at ends ⊢
  cases ends with
  | @opened service replicas inspected after look counted pause =>
    have recorded : inspected.state.2 = [⟨.inspectService wait.service, .ok service⟩] :=
      World.race_recorded look
    refine ⟨service, [], ?_⟩
    rw [state_of_pause pause]
    exact recorded
  | _ => trivial

/-- A turn that succeeds is grounded in the answers of its own poll. -/
theorem Grounded.turn (standing : Standing (σ × List Call.Exchange))
    (grounded : (Turn.again standing).Grounded wait) :
    (wait.turn client.recorded token started standing).Grounded wait := by
  obtain ⟨looked, earlier, record⟩ := grounded
  have ends := turn_ends wait client.recorded token started standing
  generalize wait.turn client.recorded token started standing = turn at ends ⊢
  cases ends with
  | @converged observation session after left poll outcome =>
    obtain ⟨last, extended, answered⟩ := Dialogue.race_recorded poll
    rw [record] at extended
    exact ⟨looked, earlier, last, extended, .of_poll answered outcome⟩
  | @pending observation session polled after left poll outcome pause =>
    obtain ⟨last, extended, -⟩ := Dialogue.race_recorded poll
    refine ⟨looked, earlier ++ last, ?_⟩
    rw [state_of_pause pause, extended, record]
    rfl
  | _ => trivial

/-- **Success is sound.** When a wait succeeds, over any client and with any token, the
answers that its last poll was given are grounds for it. In particular, an update does not
succeed while the last inspection shows it paused or rolled back. -/
theorem run_grounded {w after : World σ} {convergence : Convergence}
    (succeeds : wait.run client token w = (.ok convergence, after)) :
    ∃ looked earlier last,
      wait.run client.recorded token (w.recorded []) =
        (.ok convergence,
          after.recorded (⟨.inspectService wait.service, .ok looked⟩ :: earlier ++ last)) ∧
      wait.Grounds last convergence.progress ∧
      ∃ service,
        Call.lastInspected? (⟨.inspectService wait.service, .ok looked⟩ :: earlier ++ last) =
          some service ∧
        (wait.mode = .updating →
          ∀ state ∈ [RolloutState.paused, .rollbackStarted, .rollbackPaused, .rollbackCompleted],
            service.rolloutState? ≠ some state) := by
  have valid : wait.config.Valid := by
    rw [← ConvergenceConfig.fault?_eq_none_iff]
    by_contra unusable
    obtain ⟨fault, found⟩ := Option.ne_none_iff_exists'.mp unusable
    rw [run_of_fault found] at succeeds
    cases succeeds
  -- The record is kept by the wait with the recorded client, which is the same wait.
  obtain ⟨record, recorded⟩ := run_recorded wait client token w []
  obtain ⟨turns, unfolds⟩ := run_unfolds valid client.recorded token (w.recorded [])
  rw [succeeds] at recorded
  rw [recorded] at unfolds
  obtain ⟨looked, earlier, last, split, grounds⟩ :=
    unfolds.invariant Grounded.turn (opening_grounded wait client token w)
  have split : record = ⟨.inspectService wait.service, .ok looked⟩ :: earlier ++ last := split
  rw [split] at recorded
  exact ⟨looked, earlier, last, recorded, grounds, grounds.unfailed⟩

/-- A service of one replica that was just created. -/
private def created : Wait :=
  ⟨"svc", ⟨.ofSeconds 20, .ofSeconds 1, .ofSeconds 1, .ofSeconds 4⟩, .creating⟩

/-- The replica has a successor that runs; what is left of the former task does not count. -/
private def replaced : World Rehearsal :=
  ⟨0, .instant (.ofFrames
    [⟨some ⟨"svc", "svc", .replicated (some 1), none, none⟩,
      [⟨"new", "svc", 1, "up", .known .running, .known .running, none, ""⟩,
        ⟨"old", "svc", 1, "lost", .known .running, .known .starting, none, ""⟩],
      [⟨"up", .ready⟩, ⟨"lost", .down⟩]⟩]), []⟩

private theorem created_succeeds :
    ∃ convergence after, created.run Rehearsal.client .never replaced = (.ok convergence, after) := by
  have valid : created.config.Valid := by decide
  obtain ⟨turns, unfolds⟩ := run_unfolds valid Rehearsal.client .never replaced
  obtain ⟨standing, opened, convergence, after, turned⟩ : ∃ standing,
      created.opening Rehearsal.client .never replaced = .again standing ∧
        ∃ convergence after, created.turn Rehearsal.client .never replaced.now standing =
          .ended (.ok convergence, after) := ⟨_, rfl, _, _, rfl⟩
  have once : Unfolds created Rehearsal.client .never replaced.now
      (created.opening Rehearsal.client .never replaced) 1 (.ok convergence, after) := by
    rw [opened]
    exact .again (turned ▸ .ended _)
  exact ⟨convergence, after, unfolds.unique once⟩

/-- A slot whose task was replaced is counted by the task that runs. -/
theorem run_grounded_replaced :
    ∃ convergence after last,
      created.run Rehearsal.client .never replaced = (.ok convergence, after) ∧
      created.Grounds last convergence.progress := by
  obtain ⟨convergence, after, succeeds⟩ := created_succeeds
  obtain ⟨_, _, last, _, grounds, _⟩ := run_grounded succeeds
  exact ⟨convergence, after, last, succeeds, grounds⟩

end Wait

end ReplicaWatch
