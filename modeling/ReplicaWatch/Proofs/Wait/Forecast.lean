import ReplicaWatch.Convergence.Rehearsal
import ReplicaWatch.Proofs.Cluster.Reading
import ReplicaWatch.Proofs.Wait.Schedule
import ReplicaWatch.Proofs.Wait.Timing

/-! # What a wait will answer

When every call is answered at once, a wait can be foretold without a clock
(`Wait.Foretold`): the polls are held one after another off the clock, the `k`-th of them
falls on `ConvergenceConfig.pollTime`, and the first one that is not pending decides,
unless the time runs out before. `Wait.foretold_iff_run` says that the wait answers just
this, at just this time.

The invariant of the loop is `Wait.Follows`: the world stands at the time of the coming
poll, or at the deadline if that is earlier, with the cluster and the session that the
polls off the clock have led to.
-/

namespace ReplicaWatch

variable {α : Type}

namespace Rehearsal

/-- A race against a cluster that answers at once. -/
theorem race_instant {cluster next : ScriptedCluster} {call : Call} {answer : call.Answer}
    (answered : cluster.answer call = (some answer, next)) {now deadline : Nat}
    (early : now ≤ deadline) (journal : List Event) :
    World.race client deadline .never call ⟨now, instant cluster, journal⟩ =
      (.finished answer, ⟨now, instant next, .called now call :: journal⟩) := by
  have travel : client.travel call (instant cluster) = (0, instant cluster) := by
    simp [client, instant]
  have reply : client.answer call (instant cluster) = (some answer, instant next) := by
    simp only [client, instant, answered]
  have reached := Nat.not_lt.mpr early
  simp only [World.race, World.send, travel, Token.hasFired_never, Token.interruption?_never,
    reached, reply, Bool.false_eq_true, ↓reduceIte, Nat.add_zero]

/-- A dialogue on the clock is the dialogue off the clock, when calls take no time. -/
theorem dialogue_race_instant {dialogue : Dialogue Call Call.Answer α}
    {cluster last : ScriptedCluster} {result : α}
    (conversed : cluster.converse dialogue = (some result, last)) {now deadline : Nat}
    (early : now ≤ deadline) (journal : List Event) :
    ∃ later, dialogue.race client deadline .never ⟨now, instant cluster, journal⟩ =
      (.finished result, ⟨now, instant last, later⟩) := by
  induction dialogue generalizing cluster journal with
  | finish result => cases conversed; exact ⟨journal, rfl⟩
  | ask call next ih =>
    unfold ScriptedCluster.converse at conversed
    split at conversed
    · next answer middle answered =>
      simp only [Dialogue.race, race_instant answered early]
      exact ih answer conversed _
    · cases conversed

end Rehearsal

namespace Wait

/-- Why a wait ends before its delay, if it does. -/
def refusal? (wait : Wait) (cluster : ScriptedCluster) : Option ConvergenceError :=
  match (cluster.answer (.inspectService wait.service)).1 with
  | some (.error source) => some (.cluster wait.service wait.config.timeout source)
  | some (.ok service) =>
    if service.replicas?.isNone then some (.noReplicaCount wait.service) else none
  | none => none

/-- One poll, held with a scripted cluster off the clock. -/
def pollScripted (wait : Wait) (session : Session) (cluster : ScriptedCluster) :
    (Except ConvergenceError Observation × Session) × ScriptedCluster :=
  let conversed := cluster.converse (session.poll wait.mode wait.service wait.config.timeout)
  (conversed.1.get (ScriptedCluster.converse_isSome (session.poll_asks _ _ _) cluster),
    conversed.2)

/-- The session and the cluster before the `k`-th poll, when the look at the number of
replicas and the polls are held one after another off the clock. -/
def beforePoll (wait : Wait) (cluster : ScriptedCluster) : Nat → Session × ScriptedCluster
  | 0 => (.start wait.service, (cluster.answer (.inspectService wait.service)).2)
  | k + 1 =>
    let before := wait.beforePoll cluster k
    let polled := wait.pollScripted before.1 before.2
    (polled.1.2, polled.2)

/-- What the `k`-th poll off the clock says. -/
def pollResult (wait : Wait) (cluster : ScriptedCluster) (k : Nat) :
    Except ConvergenceError Observation :=
  (wait.pollScripted (wait.beforePoll cluster k).1 (wait.beforePoll cluster k).2).1.1

/-- What the `k`-th poll makes of the wait; nothing if it is pending. -/
def decision? (wait : Wait) (cluster : ScriptedCluster) (k : Nat) :
    Option (Except ConvergenceError Convergence) :=
  match wait.pollResult cluster k with
  | .error error => some (.error error)
  | .ok observation =>
    match observation.outcome with
    | .pending => none
    | .failed failure => some (.error (wait.rolledOut failure))
    | .converged =>
      some (.ok (wait.success (k + 1) (.saturated (wait.config.pollTime k))
        observation.progress))

/-- **The forecast of a wait.** What it answers when its calls take no time and nobody
interrupts it, and after how many nanoseconds. -/
inductive Foretold (wait : Wait) (cluster : ScriptedCluster) :
    Except ConvergenceError Convergence → Nat → Prop where
  /-- The service cannot be waited for. -/
  | refused {error : ConvergenceError} (refused : wait.refusal? cluster = some error) :
      Foretold wait cluster (.error error) 0
  /-- The first poll that is not pending is held before the timeout. -/
  | decided {k : Nat} {result : Except ConvergenceError Convergence}
      (admitted : wait.refusal? cluster = none)
      (early : wait.config.pollTime k < wait.config.timeout.nanos)
      (pending : ∀ i < k, wait.decision? cluster i = none)
      (decides : wait.decision? cluster k = some result) :
      Foretold wait cluster result (wait.config.pollTime k)
  /-- Every poll before the timeout is pending. -/
  | undecided (admitted : wait.refusal? cluster = none)
      (pending : ∀ i, wait.config.pollTime i < wait.config.timeout.nanos →
        wait.decision? cluster i = none) :
      Foretold wait cluster (.error wait.timedOut) wait.config.timeout.nanos

variable {wait : Wait} {cluster : ScriptedCluster}

/-- There is one forecast at most. -/
theorem Foretold.unique {first second : Except ConvergenceError Convergence}
    {elapsed other : Nat} (former : Foretold wait cluster first elapsed)
    (latter : Foretold wait cluster second other) : first = second ∧ elapsed = other := by
  cases former with
  | refused refused =>
    cases latter with
    | refused refused' => simp_all
    | decided admitted => simp_all
    | undecided admitted => simp_all
  | @decided k _ admitted early pending decides =>
    cases latter with
    | refused refused => simp_all
    | @decided l _ admitted' early' pending' decides' =>
      rcases Nat.lt_trichotomy k l with before | rfl | behind
      · simp [pending' k before] at decides
      · simp_all
      · simp [pending l behind] at decides'
    | undecided _ pending' => simp [pending' k early] at decides
  | undecided admitted pending =>
    cases latter with
    | refused refused => simp_all
    | @decided l _ _ early' _ decides' => simp [pending l early'] at decides'
    | undecided => exact ⟨rfl, rfl⟩

/-- A poll on the clock is the poll off the clock, when calls take no time. -/
theorem poll_instant (session : Session) (cluster : ScriptedCluster) {started now : Nat}
    (begun : started ≤ now) (punctual : now ≤ wait.deadline started) (journal : List Event) :
    ∃ later, wait.poll Rehearsal.client .never started session
        ⟨now, .instant cluster, journal⟩ =
      (.finished (wait.pollScripted session cluster).1,
        ⟨now, .instant (wait.pollScripted session cluster).2, later⟩) := by
  rw [poll_eq begun punctual]
  apply Rehearsal.dialogue_race_instant _ punctual
  simp only [pollScripted, Option.some_get]

/-- Nobody interrupts a pause. -/
theorem pause_never {started : Nat} {length : Duration} {w after : World Rehearsal} :
    wait.pause .never started length w ≠ (false, after) := by
  intro pause
  cases pause_ends pause with
  | fired fired => cases fired
  | interrupted _ fires => cases fires

/-- Where a wait that began at `started` stands when its calls take no time. -/
structure Follows (wait : Wait) (cluster : ScriptedCluster) (started : Nat)
    (standing : Standing Rehearsal) : Prop where
  admitted : wait.refusal? cluster = none
  pending : ∀ i < standing.polls, wait.decision? cluster i = none
  session : standing.session = (wait.beforePoll cluster standing.polls).1
  state : standing.world.state = .instant (wait.beforePoll cluster standing.polls).2
  interval : standing.interval.nanos = wait.config.intervalNanos standing.polls
  begun : started ≤ standing.world.now
  paced : (standing.world.now - started) * 1000000 =
      min (wait.config.pollTime standing.polls) wait.config.timeout.nanos

/-- `Follows` for what part of a wait leads to; at the end the forecast has come true. -/
def Turn.Follows (wait : Wait) (cluster : ScriptedCluster) (started : Nat) :
    Turn Rehearsal → Prop
  | .ended (result, after) => Foretold wait cluster result ((after.now - started) * 1000000)
  | .again standing => Wait.Follows wait cluster started standing

/-- At a whole number of milliseconds the deadline is not a nanosecond late. -/
theorem deadline_exact (whole : wait.config.Whole) (started : Nat) :
    (wait.deadline started - started) * 1000000 = wait.config.timeout.nanos := by
  rw [deadline, Nat.add_sub_cancel_left]
  exact Duration.ticks_of_whole whole.timeout

namespace Follows

variable {started : Nat} {standing : Standing Rehearsal}

theorem punctual (follows : Follows wait cluster started standing)
    (whole : wait.config.Whole) : standing.world.now ≤ wait.deadline started := by
  have begun := follows.begun
  have paced := follows.paced
  have timeout := deadline_exact whole started
  have due : started ≤ wait.deadline started := Nat.le_add_right _ _
  generalize wait.deadline started = deadline at timeout due ⊢
  omega

/-- The poll that is due is the next one off the clock. -/
theorem poll (follows : Follows wait cluster started standing) (whole : wait.config.Whole) :
    ∃ later, wait.poll Rehearsal.client .never started standing.session standing.world =
      (.finished (wait.pollResult cluster standing.polls,
          (wait.beforePoll cluster (standing.polls + 1)).1),
        ⟨standing.world.now, .instant (wait.beforePoll cluster (standing.polls + 1)).2,
          later⟩) := by
  have world : standing.world =
      ⟨standing.world.now, .instant (wait.beforePoll cluster standing.polls).2,
        standing.world.journal⟩ := by
    rw [← follows.state]
  rw [follows.session, world]
  exact poll_instant _ _ follows.begun (follows.punctual whole) _

/-- What the poll that is due answers, and the world that it leaves. -/
theorem polled (follows : Follows wait cluster started standing) (whole : wait.config.Whole)
    {result : Except ConvergenceError Observation} {session : Session} {after : World Rehearsal}
    (poll : wait.poll Rehearsal.client .never started standing.session standing.world =
      (.finished (result, session), after)) :
    wait.pollResult cluster standing.polls = result ∧
      session = (wait.beforePoll cluster (standing.polls + 1)).1 ∧
      after.now = standing.world.now ∧
      after.state = .instant (wait.beforePoll cluster (standing.polls + 1)).2 := by
  obtain ⟨later, polled⟩ := follows.poll whole
  rw [polled] at poll
  simp only [Prod.mk.injEq, Raced.finished.injEq] at poll
  obtain ⟨⟨result, session⟩, rfl⟩ := poll
  exact ⟨result, session.symm, rfl, rfl⟩

/-- As long as time is left, the poll falls on its time. -/
theorem on_time (follows : Follows wait cluster started standing)
    (left : ¬(wait.remaining started standing.world.now).isZero = true) :
    wait.config.pollTime standing.polls < wait.config.timeout.nanos ∧
      (standing.world.now - started) * 1000000 = wait.config.pollTime standing.polls := by
  have paced := follows.paced
  simp only [Duration.isZero_iff, remaining, Duration.nanos_minusNanos] at left
  omega

/-- When no time is left, every poll before the timeout was pending. -/
theorem too_late (follows : Follows wait cluster started standing)
    (late : (wait.remaining started standing.world.now).isZero = true) :
    Foretold wait cluster (.error wait.timedOut) ((standing.world.now - started) * 1000000) := by
  have paced := follows.paced
  simp only [Duration.isZero_iff, remaining, Duration.nanos_minusNanos] at late
  have reached : (standing.world.now - started) * 1000000 = wait.config.timeout.nanos := by omega
  have passed : wait.config.timeout.nanos ≤ wait.config.pollTime standing.polls := by omega
  rw [reached]
  refine .undecided follows.admitted fun i early => follows.pending i ?_
  by_contra behind
  have := wait.config.pollTime_mono (Nat.le_of_not_lt behind)
  omega

/-- A decisive poll makes the forecast come true. -/
theorem decides (follows : Follows wait cluster started standing)
    (left : ¬(wait.remaining started standing.world.now).isZero = true) {after : World Rehearsal}
    (now : after.now = standing.world.now) {result : Except ConvergenceError Convergence}
    (decides : wait.decision? cluster standing.polls = some result) :
    Foretold wait cluster result ((after.now - started) * 1000000) := by
  obtain ⟨early, timely⟩ := follows.on_time left
  rw [now, timely]
  exact .decided follows.admitted early follows.pending decides

/-- A pause that is slept out leads to the time of the next poll, or to the deadline. -/
theorem slept (follows : Follows wait cluster started standing) (whole : wait.config.Whole)
    (left : ¬(wait.remaining started standing.world.now).isZero = true)
    {polled after : World Rehearsal} (now : polled.now = standing.world.now)
    (pause : wait.pause .never started standing.interval polled = (true, after)) :
    started ≤ after.now ∧ (after.now - started) * 1000000 =
      min (wait.config.pollTime (standing.polls + 1)) wait.config.timeout.nanos := by
  have begun := follows.begun
  obtain ⟨_, timely⟩ := follows.on_time left
  have woken := now_of_pause_true (now ▸ begun) (now ▸ follows.punctual whole) pause
  have timer : standing.interval.ticks * 1000000 = wait.config.intervalNanos standing.polls := by
    rw [← follows.interval]
    exact Duration.ticks_of_whole (follows.interval ▸ whole.intervalNanos _)
  have timeout := deadline_exact whole started
  have due : started ≤ wait.deadline started := Nat.le_add_right _ _
  rw [now] at woken
  rw [ConvergenceConfig.pollTime_succ]
  generalize wait.deadline started = deadline at *
  omega

/-- **A turn follows the forecast.** -/
theorem turn (valid : wait.config.Valid) (whole : wait.config.Whole)
    (standing : Standing Rehearsal) (follows : Follows wait cluster started standing) :
    (wait.turn Rehearsal.client .never started standing).Follows wait cluster started := by
  have ends := turn_ends wait Rehearsal.client .never started standing
  generalize wait.turn Rehearsal.client .never started standing = turn at ends ⊢
  cases ends with
  | late late => exact follows.too_late late
  | cancelled _ poll =>
    obtain ⟨later, polled⟩ := follows.poll whole
    rw [polled] at poll
    cases poll
  | expired _ poll =>
    obtain ⟨later, polled⟩ := follows.poll whole
    rw [polled] at poll
    cases poll
  | refused left poll =>
    obtain ⟨result, _, now, _⟩ := follows.polled whole poll
    exact follows.decides left now (by simp only [decision?, result])
  | converged left poll outcome =>
    obtain ⟨result, _, now, _⟩ := follows.polled whole poll
    refine follows.decides left now ?_
    simp only [decision?, result, outcome, Duration.ofMillis, now, (follows.on_time left).2]
  | rolledOut left poll outcome =>
    obtain ⟨result, _, now, _⟩ := follows.polled whole poll
    exact follows.decides left now (by simp only [decision?, result, outcome])
  | interrupted _ _ _ pause => exact (pause_never pause).elim
  | pending left poll outcome pause =>
    obtain ⟨result, session, now, state⟩ := follows.polled whole poll
    obtain ⟨begun, paced⟩ := follows.slept whole left now pause
    refine ⟨follows.admitted, ?_, session, ?_,
      ConvergenceConfig.nanos_nextInterval valid follows.interval, begun, paced⟩
    · intro i earlier
      rcases Nat.lt_succ_iff_lt_or_eq.mp earlier with before | rfl
      · exact follows.pending i before
      · simp only [decision?, result, outcome]
    · rw [state_of_pause pause, state]

end Follows

/-- The delay, slept out, leads to the time of the first poll, or to the deadline. -/
theorem slept_delay (whole : wait.config.Whole) {start : Nat} {inspected after : World Rehearsal}
    (now : inspected.now = start)
    (pause : wait.pause .never start wait.config.delay inspected = (true, after)) :
    start ≤ after.now ∧ (after.now - start) * 1000000 =
      min (wait.config.pollTime 0) wait.config.timeout.nanos := by
  have due : start ≤ wait.deadline start := Nat.le_add_right _ _
  have woken := now_of_pause_true (now ▸ Nat.le_refl _) (now ▸ due) pause
  have timer := Duration.ticks_of_whole whole.delay
  have timeout := deadline_exact whole start
  rw [now] at woken
  rw [ConvergenceConfig.pollTime_zero]
  generalize wait.deadline start = deadline at *
  omega

/-- The look at the number of replicas and the delay follow the forecast. -/
theorem opening_follows (valid : wait.config.Valid) (whole : wait.config.Whole)
    (cluster : ScriptedCluster) (start : Nat) (journal : List Event) :
    (wait.opening Rehearsal.client .never ⟨start, .instant cluster, journal⟩).Follows wait
      cluster start := by
  have prompt : (Call.inspectService wait.service).operation ≠ .waitContainerRemoved := nofun
  obtain ⟨inspected, next, answered⟩ := ScriptedCluster.answer_isSome prompt cluster
  have due : start ≤ wait.deadline start := Nat.le_add_right _ _
  have raced := Rehearsal.race_instant answered due journal
  have ends := opening_ends wait Rehearsal.client .never ⟨start, .instant cluster, journal⟩
  generalize wait.opening Rehearsal.client .never ⟨start, .instant cluster, journal⟩ = turn
    at ends ⊢
  cases ends with
  | cancelled look => rw [raced] at look; cases look
  | expired look => rw [raced] at look; cases look
  | @refused source after look =>
    rw [raced] at look
    cases look
    have refused : Foretold wait cluster
        (.error (.cluster wait.service wait.config.timeout source)) 0 :=
      .refused (by simp only [refusal?, answered])
    simpa only [Turn.Follows, Nat.sub_self, Nat.zero_mul] using refused
  | uncounted look uncounted =>
    rw [raced] at look
    cases look
    have refused : Foretold wait cluster (.error (.noReplicaCount wait.service)) 0 :=
      .refused (by simp [refusal?, answered, uncounted])
    simpa only [Turn.Follows, Nat.sub_self, Nat.zero_mul] using refused
  | interrupted _ _ pause => exact (pause_never pause).elim
  | opened look counted pause =>
    rw [raced] at look
    cases look
    obtain ⟨begun, paced⟩ := slept_delay whole rfl pause
    refine ⟨?_, nofun, rfl, ?_, (ConvergenceConfig.intervalNanos_zero valid).symm, begun, paced⟩
    · simp [refusal?, answered, counted]
    · rw [state_of_pause pause]
      simp only [beforePoll, answered]

/-- **A wait comes as foretold.** Over a cluster that answers every call at once, with a token
that never fires and lengths of whole milliseconds, a wait that can be driven answers what
its forecast says, when its forecast says. -/
theorem foretold_iff_run (valid : wait.config.Valid) (whole : wait.config.Whole)
    (cluster : ScriptedCluster) (start : Nat) (journal : List Event)
    (result : Except ConvergenceError Convergence) (elapsed : Nat) :
    Foretold wait cluster result elapsed ↔
      (wait.run Rehearsal.client .never ⟨start, .instant cluster, journal⟩).1 = result ∧
        ((wait.run Rehearsal.client .never ⟨start, .instant cluster, journal⟩).2.now - start) *
          1000000 = elapsed := by
  obtain ⟨turns, unfolds⟩ := run_unfolds valid Rehearsal.client .never
    ⟨start, .instant cluster, journal⟩
  have follows : Turn.Follows wait cluster start
      (.ended (wait.run Rehearsal.client .never ⟨start, .instant cluster, journal⟩)) :=
    unfolds.invariant (Follows.turn valid whole) (opening_follows valid whole cluster start journal)
  constructor
  · intro foretold
    exact Foretold.unique follows foretold
  · rintro ⟨rfl, rfl⟩
    exact follows

/-- An update of one replica that is watched for twenty seconds at most. -/
private def watched : Wait :=
  ⟨"svc", ⟨.ofSeconds 20, .ofSeconds 1, .ofSeconds 1, .ofSeconds 4⟩, .updating⟩

/-- A frame of a script in which the update of a service without tasks is in some state. -/
private def updateFrame (state : RolloutState) : Frame :=
  ⟨some ⟨"svc", "svc", .replicated (some 1), some ⟨state, ""⟩, none⟩, [], []⟩

/-- The update is completed when the second poll looks. -/
private def completing : World Rehearsal :=
  ⟨0, .instant (.ofFrames [updateFrame .updating, updateFrame .updating, updateFrame .completed]),
    []⟩

theorem foretold_iff_run_completing :
    watched.config.Valid ∧ watched.config.Whole ∧
      (watched.run Rehearsal.client .never completing).1 =
        .ok (watched.success 2 (.saturated (watched.config.pollTime 1)) none) ∧
      ((watched.run Rehearsal.client .never completing).2.now - 0) * 1000000 = 2000000000 := by
  have valid : watched.config.Valid := by decide
  have whole : watched.config.Whole := ⟨by decide, by decide, by decide, by decide⟩
  refine ⟨valid, whole, (foretold_iff_run valid whole _ 0 [] _ _).mp ?_⟩
  have second : watched.config.pollTime 1 = 2000000000 := by decide
  rw [← second]
  apply Foretold.decided rfl (by decide) _ rfl
  intro i earlier
  obtain rfl : i = 0 := by omega
  rfl

end Wait

end ReplicaWatch
