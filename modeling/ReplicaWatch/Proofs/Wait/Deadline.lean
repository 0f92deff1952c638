import Mathlib.Algebra.Order.Floor.Div
import ReplicaWatch.Proofs.Clock.Journal
import ReplicaWatch.Proofs.Wait.Failure
import ReplicaWatch.Proofs.Wait.Timing

/-! # A wait is bounded

However long the calls of a wait take, and whether or not they are answered, the wait is
over by its deadline, gives up no earlier than then, and starts no more polls than fit
between the delay and the timeout (`Wait.run_bounded`).

The invariant of the loop is `Wait.Timely`: at a poll that is due, either the delay and one
first interval for each poll before it have passed, or the deadline is there. That the
first interval is not empty, and that doubling and clamping never make an interval
shorter, is what keeps a cluster that answers at once from being polled for ever.
-/

namespace ReplicaWatch

variable {σ : Type}

/-- The polls that fit between the delay and the timeout when the shortest interval lies
between them. -/
def ConvergenceConfig.pollBound (config : ConvergenceConfig) : Nat :=
  (config.timeout.nanos - config.delay.nanos) ⌈/⌉ config.minInterval.nanos

/-- Polls that leave time before the timeout are fewer than the bound. -/
theorem ConvergenceConfig.lt_pollBound {config : ConvergenceConfig} (valid : config.Valid)
    {polls : Nat}
    (fits : config.delay.nanos + polls * config.minInterval.nanos < config.timeout.nanos) :
    polls < config.pollBound := by
  by_contra reached
  have covered := (ceilDiv_le_iff_le_mul valid.minInterval_pos).mp (Nat.le_of_not_lt reached)
  rw [Nat.mul_comm] at covered
  omega

namespace Wait

/-- The polls that a wait started between two worlds: a poll begins with an inspection, and
one more inspection comes before the first poll. -/
def pollsStarted (before after : World σ) : Nat := after.inspections - before.inspections - 1

variable {wait : Wait} {client : Client σ} {token : Token} {started : Nat} {seen : Nat}

/-- No poll says that the time ran out. -/
theorem poll_refused_ne {w after : World σ} {session next : Session} {error : ConvergenceError}
    (poll : wait.poll client token started session w = (.finished (.error error, next), after))
    (id : String) (timeout : Duration) : error ≠ .didNotConverge id timeout := by
  obtain ⟨exchanges, answered⟩ := Dialogue.race_answered poll
  rcases Session.error_of_ends (Session.poll_ends answered) with ⟨source, rfl⟩ | rfl
  · nofun
  · nofun

/-- A pause of a wait makes no inspection. -/
theorem inspections_pause {w after : World σ} {length : Duration} {awake : Bool}
    (pause : wait.pause token started length w = (awake, after)) :
    after.inspections = w.inspections := by
  have same := World.inspections_pause token (min length (wait.remaining started w.now)) w
  rwa [← pause_eq, pause] at same

/-- Where a wait that began at `started`, when `seen` inspections had been made, stands in
time. -/
structure Timely (wait : Wait) (started seen : Nat) (standing : Standing σ) : Prop where
  begun : started ≤ standing.world.now
  punctual : standing.world.now ≤ wait.deadline started
  interval_le : wait.config.minInterval.nanos ≤ standing.interval.nanos
  paced : wait.config.delay.nanos + standing.polls * wait.config.minInterval.nanos ≤
      (standing.world.now - started) * 1000000 ∨ standing.world.now = wait.deadline started
  bounded : standing.polls ≤ wait.config.pollBound
  counted : standing.world.inspections ≤ seen + 1 + standing.polls

/-- `Timely` for what part of a wait leads to; at the end it says what became of the
deadline and of the number of polls. -/
def Turn.Timely (wait : Wait) (started seen : Nat) : Turn σ → Prop
  | .ended (result, after) =>
    started ≤ after.now ∧ after.now ≤ wait.deadline started ∧
      (∀ id timeout, result = .error (.didNotConverge id timeout) →
        after.now = wait.deadline started) ∧
      after.inspections ≤ seen + 1 + wait.config.pollBound
  | .again standing => Wait.Timely wait started seen standing

/-- As long as time is left, another poll fits. -/
theorem Timely.polls_lt {standing : Standing σ} (timely : Timely wait started seen standing)
    (valid : wait.config.Valid)
    (left : ¬(wait.remaining started standing.world.now).isZero = true) :
    standing.polls < wait.config.pollBound := by
  apply ConvergenceConfig.lt_pollBound valid
  have before := mt (remaining_isZero_iff timely.begun).mpr left
  have timeout := wait.config.timeout.nanos_le_ticks
  have paced := timely.paced
  have begun := timely.begun
  simp only [Duration.isZero_iff, remaining, Duration.nanos_minusNanos] at left
  omega

/-- A poll that is started in time was due, and ends in time. -/
theorem Timely.polled {standing : Standing σ} (timely : Timely wait started seen standing)
    (valid : wait.config.Valid)
    (left : ¬(wait.remaining started standing.world.now).isZero = true)
    {raced : Raced (Except ConvergenceError Observation × Session)} {after : World σ}
    (poll : wait.poll client token started standing.session standing.world = (raced, after)) :
    standing.polls < wait.config.pollBound ∧
      started ≤ after.now ∧ after.now ≤ wait.deadline started ∧
      after.inspections ≤ seen + 1 + (standing.polls + 1) := by
  obtain ⟨later, early⟩ := now_of_poll timely.begun timely.punctual poll
  refine ⟨timely.polls_lt valid left, Nat.le_trans timely.begun later, early, ?_⟩
  have inspected := Session.inspections_poll_le client (wait.deadline started) token wait.mode
    wait.service wait.config.timeout standing.session standing.world
  rw [← poll_eq timely.begun timely.punctual, poll] at inspected
  have counted := timely.counted
  dsimp only at inspected
  omega

/-- After a pause that was slept out, one more of the shortest intervals has passed, or the
deadline is there. -/
theorem Timely.slept {standing : Standing σ} (timely : Timely wait started seen standing)
    {polled after : World σ} (left : ¬(wait.remaining started standing.world.now).isZero = true)
    (later : standing.world.now ≤ polled.now) (early : polled.now ≤ wait.deadline started)
    (pause : wait.pause token started standing.interval polled = (true, after)) :
    wait.config.delay.nanos + (standing.polls + 1) * wait.config.minInterval.nanos ≤
        (after.now - started) * 1000000 ∨ after.now = wait.deadline started := by
  have begun := timely.begun
  have before := mt (remaining_isZero_iff begun).mpr left
  have woken := now_of_pause_true (Nat.le_trans begun later) early pause
  rcases timely.paced with paced | reached
  · have interval := timely.interval_le
    have timer := standing.interval.nanos_le_ticks
    rw [Nat.succ_mul]
    omega
  · omega

/-- **A turn keeps its time.** -/
theorem Timely.turn (valid : wait.config.Valid) (standing : Standing σ)
    (timely : Timely wait started seen standing) :
    (wait.turn client token started standing).Timely wait started seen := by
  have ends := turn_ends wait client token started standing
  generalize wait.turn client token started standing = turn at ends ⊢
  cases ends with
  | late late =>
    have reached := (remaining_isZero_iff timely.begun).mp late
    have bounded := timely.bounded
    have counted := timely.counted
    exact ⟨timely.begun, timely.punctual, fun _ _ _ => Nat.le_antisymm timely.punctual reached,
      by omega⟩
  | cancelled left poll =>
    obtain ⟨fits, begun, early, counted⟩ := timely.polled valid left poll
    exact ⟨begun, early, nofun, by omega⟩
  | expired left poll =>
    obtain ⟨fits, begun, early, counted⟩ := timely.polled valid left poll
    rw [poll_eq timely.begun timely.punctual] at poll
    have reached := Dialogue.race_expired_now timely.punctual poll
    exact ⟨begun, early, fun _ _ _ => reached, by omega⟩
  | refused left poll =>
    obtain ⟨fits, begun, early, counted⟩ := timely.polled valid left poll
    refine ⟨begun, early, ?_, by omega⟩
    intro id timeout same
    exact (poll_refused_ne poll id timeout (Except.error.inj same)).elim
  | converged left poll =>
    obtain ⟨fits, begun, early, counted⟩ := timely.polled valid left poll
    exact ⟨begun, early, nofun, by omega⟩
  | @rolledOut _ _ failure _ left poll =>
    obtain ⟨fits, begun, early, counted⟩ := timely.polled valid left poll
    refine ⟨begun, early, ?_, by omega⟩
    intro id timeout same
    cases failure <;> cases same
  | interrupted left poll _ pause =>
    obtain ⟨fits, begun, early, counted⟩ := timely.polled valid left poll
    obtain ⟨later, early⟩ := now_of_pause begun early pause
    refine ⟨Nat.le_trans begun later, early, nofun, ?_⟩
    rw [inspections_pause pause]
    omega
  | @pending _ _ polled after left poll _ pause =>
    obtain ⟨fits, begun, early, counted⟩ := timely.polled valid left poll
    obtain ⟨later, punctual⟩ := now_of_pause begun early pause
    refine ⟨Nat.le_trans begun later, punctual, ?_, ?_, fits, ?_⟩
    · simp only [ConvergenceConfig.nextInterval, Duration.nanos_max]
      omega
    · exact timely.slept left (now_of_poll timely.begun timely.punctual poll).1 early pause
    · rw [inspections_pause pause]
      exact counted

/-- The look at the number of replicas and the delay keep their time. -/
theorem opening_timely (wait : Wait) (client : Client σ) (token : Token) (w : World σ) :
    (wait.opening client token w).Timely wait w.now w.inspections := by
  have ends := opening_ends wait client token w
  have due : w.now ≤ wait.deadline w.now := Nat.le_add_right _ _
  have later := World.now_le_race client (wait.deadline w.now) token
    (.inspectService wait.service) w
  have early := World.race_now_le client token (.inspectService wait.service) due
  have inspected := World.inspections_race_le client (wait.deadline w.now) token
    (.inspectService wait.service) w
  generalize wait.opening client token w = turn at ends ⊢
  cases ends with
  | cancelled look =>
    rw [look] at later early inspected
    exact ⟨later, early, nofun, Nat.le_trans inspected (Nat.le_add_right _ _)⟩
  | expired look =>
    rw [look] at later early inspected
    exact ⟨later, early, fun _ _ _ => World.race_expired_now due look,
      Nat.le_trans inspected (Nat.le_add_right _ _)⟩
  | refused look =>
    rw [look] at later early inspected
    exact ⟨later, early, nofun, Nat.le_trans inspected (Nat.le_add_right _ _)⟩
  | uncounted look =>
    rw [look] at later early inspected
    exact ⟨later, early, nofun, Nat.le_trans inspected (Nat.le_add_right _ _)⟩
  | interrupted look _ pause =>
    rw [look] at later early inspected
    obtain ⟨after, punctual⟩ := now_of_pause later early pause
    refine ⟨Nat.le_trans later after, punctual, nofun, ?_⟩
    rw [inspections_pause pause]
    exact Nat.le_trans inspected (Nat.le_add_right _ _)
  | opened look _ pause =>
    rw [look] at later early inspected
    obtain ⟨after, punctual⟩ := now_of_pause later early pause
    refine ⟨Nat.le_trans later after, punctual, Nat.le_refl _, ?_, Nat.zero_le _, ?_⟩
    · have woken := now_of_pause_true later early pause
      have delay := wait.config.delay.nanos_le_ticks
      dsimp only at *
      omega
    · dsimp only
      rw [inspections_pause pause]
      exact inspected

/-- Each turn but the last starts a poll. -/
theorem Timely.turns_le (valid : wait.config.Valid) {turn : Turn σ} {turns : Nat}
    {out : Except ConvergenceError Convergence × World σ}
    (unfolds : Unfolds wait client token started turn turns out)
    (timely : turn.Timely wait started seen) {standing : Standing σ}
    (due : turn = .again standing) : turns + standing.polls ≤ wait.config.pollBound + 1 := by
  induction unfolds generalizing standing with
  | ended out => cases due
  | @again current turns out rest ih =>
    cases due
    have next : (wait.turn client token started current).Timely wait started seen :=
      Timely.turn valid current timely
    have ends := turn_ends wait client token started current
    generalize wait.turn client token started current = turn at ends next rest ih
    have bounded := timely.bounded
    cases ends with
    | pending =>
      have later := ih next rfl
      dsimp only at later
      omega
    | _ => cases rest; omega

/-- **A wait is bounded.** Over any client and any token, the turns of a wait that can be
driven come to an end. By then no more time has passed than the timeout, in whole
milliseconds; all of it has passed when the wait says that it ran out; and no more polls
were started than fit between the delay and the timeout, none if the delay is no shorter. -/
theorem run_bounded (valid : wait.config.Valid) (client : Client σ) (token : Token)
    (w : World σ) :
    ∃ turns result after,
      Unfolds wait client token w.now (wait.opening client token w) turns (result, after) ∧
      wait.run client token w = (result, after) ∧
      turns ≤ wait.config.pollBound + 1 ∧
      w.now ≤ after.now ∧
      after.now - w.now ≤ wait.config.timeout.ticks ∧
      (∀ id timeout, result = .error (.didNotConverge id timeout) →
        wait.config.timeout.nanos ≤ (after.now - w.now) * 1000000) ∧
      pollsStarted w after ≤ wait.config.pollBound ∧
      (wait.config.timeout ≤ wait.config.delay → pollsStarted w after = 0) := by
  obtain ⟨turns, unfolds⟩ := run_unfolds valid client token w
  rcases ended : wait.run client token w with ⟨result, after⟩
  rw [ended] at unfolds
  have opened := opening_timely wait client token w
  obtain ⟨begun, early, reached, counted⟩ := unfolds.invariant (Timely.turn valid) opened
  have few : pollsStarted w after ≤ wait.config.pollBound := by
    unfold pollsStarted
    omega
  refine ⟨turns, result, after, unfolds, rfl, ?_, begun, ?_, ?_, few, ?_⟩
  · cases turn : wait.opening client token w with
    | ended out =>
      rw [turn] at unfolds
      cases unfolds
      exact Nat.zero_le _
    | again standing =>
      have bounded := Timely.turns_le valid unfolds opened turn
      omega
  · exact Nat.sub_le_iff_le_add'.mpr early
  · intro id timeout timedOut
    rw [reached id timeout timedOut, deadline, Nat.add_sub_cancel_left]
    exact wait.config.timeout.nanos_le_ticks
  · intro late
    have room : wait.config.pollBound = 0 := by
      have passed : wait.config.timeout.nanos ≤ wait.config.delay.nanos := late
      rw [ConvergenceConfig.pollBound, Nat.sub_eq_zero_of_le passed, zero_ceilDiv]
    exact Nat.eq_zero_of_le_zero (room ▸ few)

/-- A cluster whose inspections are answered after a second and whose listings never are. -/
private def stalled : Client Unit where
  travel call _ := (if call.operation = .inspectService then 1000 else 0, ())
  answer
    | .inspectService id, _ => (some (.ok ⟨id, id, .replicated (some 1), none, none⟩), ())
    | _, _ => (none, ())

/-- A daemon that never answers keeps no wait beyond its timeout. -/
theorem run_bounded_stalled :
    ConvergenceConfig.standard.Valid ∧
      (Wait.run ⟨"svc", .standard, .creating⟩ stalled .never ⟨0, (), []⟩).2.now ≤ 180000 ∧
      pollsStarted ⟨0, (), []⟩
        (Wait.run ⟨"svc", .standard, .creating⟩ stalled .never ⟨0, (), []⟩).2 ≤ 35 := by
  have valid : ConvergenceConfig.standard.Valid := by decide
  obtain ⟨_, _, after, _, ended, _, _, early, _, few, _⟩ :=
    @run_bounded Unit ⟨"svc", .standard, .creating⟩ valid stalled .never ⟨0, (), []⟩
  rw [ended]
  exact ⟨valid, early, few⟩

end Wait

end ReplicaWatch
