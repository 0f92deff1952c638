import ReplicaWatch.Convergence.Rehearsal
import ReplicaWatch.Proofs.Clock.Interruption
import ReplicaWatch.Proofs.Wait.Conduct

/-! # A wait that is cancelled

A token changes nothing about a wait that is over before it fires, and cuts every other wait off
at just the time at which it fires (`Wait.run_cancelled`). The wait with the token and the wait
without one are held side by side: part after part they go the same way, until one of them is cut
(`Wait.Turn.Firing`).
-/

namespace ReplicaWatch.Wait

variable {σ : Type} {wait : Wait} {client : Client σ} {token : Token} {started time : Nat}

/-- How part of a wait goes under a token that fires at some time, when it leads to `free` under
a token that never fires. -/
inductive Turn.Firing (wait : Wait) (time : Nat) (free : Turn σ) : Turn σ → Prop where
  | kept (early : free.world.now < time) : Firing wait time free free
  | cut {cut : World σ} (off : World.CutOff time cut free.world) :
      Firing wait time free (.ended (.error wait.cancelled, cut))

/-- What is over before the token fires is kept. -/
theorem Turn.Firing.of_eq {free other : Turn σ} (same : other = free)
    (early : free.world.now < time) : free.Firing wait time other := by
  rw [same]
  exact .kept early

/-- A pause is kept or cut, as the token fires behind it or in it. -/
theorem pause_firing {length : Duration} {w after : World σ} {awake : Bool}
    (ahead : w.now < time) (pause : wait.pause .never started length w = (awake, after)) :
    after.now < time ∧ wait.pause (.firing time) started length w = (awake, after) ∨
      ∃ cut, wait.pause (.firing time) started length w = (false, cut) ∧
        World.CutOff time cut after := by
  rw [pause_eq] at pause ⊢
  have paused := World.pause_firing (min length (wait.remaining started w.now)) ahead
  rwa [pause] at paused

/-- A turn whose poll is over before the token fires can only be cut in the pause behind it. -/
theorem turn_firing_of_poll {standing : Standing σ}
    (left : ¬(wait.remaining started standing.world.now).isZero = true)
    (prior : (wait.poll client .never started standing.session standing.world).2.now < time)
    (same : wait.poll client (.firing time) started standing.session standing.world =
      wait.poll client .never started standing.session standing.world) :
    (wait.turn client .never started standing).Firing wait time
      (wait.turn client (.firing time) started standing) := by
  have ends := turn_ends wait client .never started standing
  generalize wait.turn client .never started standing = free at ends ⊢
  cases ends with
  | late late => exact absurd late left
  | cancelled _ poll =>
    rw [poll] at prior
    exact .of_eq (TurnEnds.turn_eq (.cancelled left (same.trans poll))) prior
  | expired _ poll =>
    rw [poll] at prior
    exact .of_eq (TurnEnds.turn_eq (.expired left (same.trans poll))) prior
  | refused _ poll =>
    rw [poll] at prior
    exact .of_eq (TurnEnds.turn_eq (.refused left (same.trans poll))) prior
  | converged _ poll outcome =>
    rw [poll] at prior
    exact .of_eq (TurnEnds.turn_eq (.converged left (same.trans poll) outcome)) prior
  | rolledOut _ poll outcome =>
    rw [poll] at prior
    exact .of_eq (TurnEnds.turn_eq (.rolledOut left (same.trans poll) outcome)) prior
  | interrupted _ poll outcome pause =>
    rw [poll] at prior
    rcases pause_firing prior pause with ⟨woken, slept⟩ | ⟨cut, cancelled, off⟩
    · rw [TurnEnds.turn_eq (.interrupted left (same.trans poll) outcome slept)]
      exact .kept woken
    · rw [TurnEnds.turn_eq (.interrupted left (same.trans poll) outcome cancelled)]
      exact .cut off
  | pending _ poll outcome pause =>
    rw [poll] at prior
    rcases pause_firing prior pause with ⟨woken, slept⟩ | ⟨cut, cancelled, off⟩
    · rw [TurnEnds.turn_eq (.pending left (same.trans poll) outcome slept)]
      exact .kept woken
    · rw [TurnEnds.turn_eq (.interrupted left (same.trans poll) outcome cancelled)]
      exact .cut off

/-- **A turn is gone through or cut.** -/
theorem turn_firing (standing : Standing σ) (ahead : standing.world.now < time) :
    (wait.turn client .never started standing).Firing wait time
      (wait.turn client (.firing time) started standing) := by
  by_cases late : (wait.remaining started standing.world.now).isZero = true
  · rw [TurnEnds.turn_eq (.late late), TurnEnds.turn_eq (.late late)]
    exact .kept ahead
  · rcases Dialogue.race_firing client
        (standing.world.now + (wait.remaining started standing.world.now).ticks)
        (standing.session.poll wait.mode wait.service wait.config.timeout) ahead with
      ⟨prior, same⟩ | ⟨cut, cancelled, off⟩
    · exact turn_firing_of_poll late prior same
    · rw [TurnEnds.turn_eq (.cancelled late cancelled)]
      have grows : World.Grows (fun _ _ => True) _
          (wait.turn client .never started standing).world :=
        (turn_ends wait client .never started standing).grows late
      exact .cut (off.extend grows)

/-- What comes before the first poll is gone through or cut. -/
theorem opening_firing (wait : Wait) (client : Client σ) {w : World σ} (ahead : w.now < time) :
    (wait.opening client .never w).Firing wait time (wait.opening client (.firing time) w) := by
  have ends := opening_ends wait client .never w
  rcases World.race_firing client (wait.deadline w.now) (.inspectService wait.service) ahead with
    ⟨prior, same⟩ | ⟨cut, cancelled, off⟩
  · generalize wait.opening client .never w = free at ends ⊢
    cases ends with
    | cancelled look =>
      rw [look] at prior
      exact .of_eq (OpeningEnds.opening_eq (.cancelled (same.trans look))) prior
    | expired look =>
      rw [look] at prior
      exact .of_eq (OpeningEnds.opening_eq (.expired (same.trans look))) prior
    | refused look =>
      rw [look] at prior
      exact .of_eq (OpeningEnds.opening_eq (.refused (same.trans look))) prior
    | uncounted look uncounted =>
      rw [look] at prior
      exact .of_eq (OpeningEnds.opening_eq (.uncounted (same.trans look) uncounted)) prior
    | interrupted look counted pause =>
      rw [look] at prior
      rcases pause_firing prior pause with ⟨woken, slept⟩ | ⟨cut, cancelled, off⟩
      · rw [OpeningEnds.opening_eq (.interrupted (same.trans look) counted slept)]
        exact .kept woken
      · rw [OpeningEnds.opening_eq (.interrupted (same.trans look) counted cancelled)]
        exact .cut off
    | opened look counted pause =>
      rw [look] at prior
      rcases pause_firing prior pause with ⟨woken, slept⟩ | ⟨cut, cancelled, off⟩
      · rw [OpeningEnds.opening_eq (.opened (same.trans look) counted slept)]
        exact .kept woken
      · rw [OpeningEnds.opening_eq (.interrupted (same.trans look) counted cancelled)]
        exact .cut off
  · rw [OpeningEnds.opening_eq (.cancelled cancelled)]
    have grows : World.Grows (fun _ _ => True) _ (wait.opening client .never w).world := ends.grows
    exact .cut (off.extend grows)

/-- Turns side by side: what is cut once stays cut. -/
theorem Unfolds.firing {free cut : Turn σ} {turns others : Nat}
    {out other : Except ConvergenceError Convergence × World σ}
    (unfolds : Unfolds wait client .never started free turns out)
    (firing : free.Firing wait time cut)
    (unfolds' : Unfolds wait client (.firing time) started cut others other) :
    (Turn.ended out).Firing wait time (.ended other) := by
  -- By induction on the turns of the free wait; the cut one takes the same turns until it is cut.
  induction unfolds generalizing cut others with
  | ended out =>
    cases firing with
    | kept early => cases unfolds'; exact .kept early
    | cut off => cases unfolds'; exact .cut off
  | @again standing turns out rest ih =>
    cases firing with
    | kept early =>
      cases unfolds' with
      | again rest' => exact ih (turn_firing standing early) rest'
    | cut off =>
      cases unfolds'
      have grows := Unfolds.upholds (World.grows_law client .never _) (.again rest)
      exact .cut (off.extend grows)

/-- **A wait under a firing token** is the free wait, or is cut when the token fires. -/
theorem run_firing (valid : wait.config.Valid) (client : Client σ) {w : World σ}
    (ahead : w.now < time) :
    (Turn.ended (wait.run client .never w)).Firing wait time
      (.ended (wait.run client (.firing time) w)) := by
  obtain ⟨turns, unfolds⟩ := run_unfolds valid client .never w
  obtain ⟨others, unfolds'⟩ := run_unfolds valid client (.firing time) w
  exact unfolds.firing (opening_firing wait client ahead) unfolds'

/-- A wait whose token has fired before it starts does nothing. -/
theorem run_of_hasFired (valid : wait.config.Valid) (client : Client σ) {w : World σ}
    (fired : token.hasFired w.now = true) :
    wait.run client token w = (.error wait.cancelled, w) := by
  have look : w.race client (wait.deadline w.now) token (.inspectService wait.service) =
      (.cancelled, w) := by
    unfold World.race
    rw [if_pos fired]
  obtain ⟨turns, unfolds⟩ := run_unfolds valid client token w
  rw [OpeningEnds.opening_eq (.cancelled look)] at unfolds
  exact unfolds.unique (.ended _)

/-- **Cancellation only cuts a wait short.** Under a token that fires some time after the start of
a wait, a wait that is over before comes to the same end with the same calls, and a wait that
would still go on is cancelled at that very time, with no calls but those that it would have made
by then. Under a token that has fired before the start, it is cancelled at once without a call. -/
theorem run_cancelled (valid : wait.config.Valid) (client : Client σ) (w : World σ)
    (elapsed : Nat) :
    ((wait.run client .never w).2.now < w.now + elapsed →
        wait.run client (.firing (w.now + elapsed)) w = wait.run client .never w) ∧
      (w.now + elapsed < (wait.run client .never w).2.now →
        ∃ cut, wait.run client (.firing (w.now + elapsed)) w =
            (.error (.cancelled wait.service wait.config.timeout), cut) ∧
          cut.now = w.now + elapsed ∧
          cut.calls <+: (wait.run client .never w).2.calls) ∧
      ∀ time ≤ w.now, wait.run client (.firing time) w =
        (.error (.cancelled wait.service wait.config.timeout), w) := by
  have before (time : Nat) (fired : time ≤ w.now) :
      wait.run client (.firing time) w =
        (.error (.cancelled wait.service wait.config.timeout), w) :=
    run_of_hasFired valid client (Token.hasFired_firing_iff.mpr fired)
  have grows := wait.run_grows client .never w
  refine ⟨?_, ?_, before⟩
  · intro prior
    have ahead : w.now < w.now + elapsed := Nat.lt_of_le_of_lt grows.later prior
    have firing := run_firing valid client ahead
    generalize wait.run client (.firing (w.now + elapsed)) w = other at firing ⊢
    cases firing with
    | kept => rfl
    | cut off => exact absurd off.late (Nat.not_le_of_lt prior)
  · intro late
    rcases Nat.eq_zero_or_pos elapsed with rfl | positive
    · refine ⟨w, before _ (Nat.le_refl _), rfl, ?_⟩
      rw [grows.calls_eq]
      exact List.prefix_append _ _
    · have ahead : w.now < w.now + elapsed := Nat.lt_add_of_pos_right positive
      have firing := run_firing valid client ahead
      generalize wait.run client (.firing (w.now + elapsed)) w = other at firing ⊢
      cases firing with
      | kept early => exact absurd early (Nat.lt_asymm late)
      | @cut cut off => exact ⟨cut, rfl, off.now, off.calls⟩

/-- A service of one replica that never gets a task, to be waited for three seconds. -/
private def taskless : Wait :=
  ⟨"svc", ⟨.ofSeconds 3, .ofSeconds 1, .ofSeconds 1, .ofSeconds 1⟩, .creating⟩

/-- The inspection before the delay takes half a second, and the first listing of the tasks is under
way from a second and a half on for seven tenths of a second. -/
private def sluggish : World Rehearsal :=
  ⟨0, ⟨.ofFrames [⟨some ⟨"svc", "svc", .replicated (some 1), none, none⟩, [], []⟩],
    fun
      | .inspectService => [500]
      | .listTasks => [700]
      | _ => []⟩, []⟩

private theorem taskless_times_out :
    (taskless.run Rehearsal.client .never sluggish).2.now = 3000 := by
  have valid : taskless.config.Valid := by decide
  obtain ⟨turns, unfolds⟩ := run_unfolds valid Rehearsal.client .never sluggish
  obtain ⟨first, opened, second, turned, after, ended, now⟩ : ∃ first,
      taskless.opening Rehearsal.client .never sluggish = .again first ∧
        ∃ second, taskless.turn Rehearsal.client .never 0 first = .again second ∧
          ∃ after, taskless.turn Rehearsal.client .never 0 second =
            .ended (.error taskless.timedOut, after) ∧ after.now = 3000 :=
    ⟨_, rfl, _, rfl, _, rfl, rfl⟩
  have twice : Unfolds taskless Rehearsal.client .never sluggish.now
      (taskless.opening Rehearsal.client .never sluggish) 2 (.error taskless.timedOut, after) := by
    rw [opened]
    exact .again (turned ▸ .again (ended ▸ .ended _))
  rw [unfolds.unique twice]
  exact now

/-- The token fires while tasks are listed, and the wait ends at that moment. -/
theorem run_cancelled_listing :
    taskless.config.Valid ∧
      2000 < (taskless.run Rehearsal.client .never sluggish).2.now ∧
      ∃ cut, taskless.run Rehearsal.client (.firing 2000) sluggish =
          (.error (.cancelled "svc" (.ofSeconds 3)), cut) ∧
        cut.now = 2000 ∧
        cut.calls <+: (taskless.run Rehearsal.client .never sluggish).2.calls := by
  have valid : taskless.config.Valid := by decide
  have late : 2000 < (taskless.run Rehearsal.client .never sluggish).2.now := by
    rw [taskless_times_out]
    decide
  obtain ⟨cut, cancelled, now, calls⟩ :=
    (run_cancelled valid Rehearsal.client sluggish 2000).2.1 late
  exact ⟨valid, late, cut, cancelled, now, calls⟩

end ReplicaWatch.Wait
