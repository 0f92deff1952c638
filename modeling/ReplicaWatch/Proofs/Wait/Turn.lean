import ReplicaWatch.Convergence.Wait
import ReplicaWatch.Proofs.Clock.Race

/-! # A wait, turn by turn

The loop of a wait as a transition system. Before each poll the wait stands somewhere
(`Wait.Standing`); a turn is one poll and the pause behind it, and either ends the wait or
leads to the next standing (`Wait.turn`). `Wait.Unfolds` takes turns one after another and
bounds them by nothing, so that a derivation exists only for a wait that ends; every wait
with a valid configuration has one, and its result is that of `Wait.run`
(`Wait.run_unfolds`). What a turn preserves holds at the end (`Wait.Unfolds.invariant`).
-/

namespace ReplicaWatch.Wait

variable {σ : Type}

/-- Where a wait stands before a poll. -/
structure Standing (σ : Type) where
  session : Session
  /-- The interval behind the coming poll. -/
  interval : Duration
  /-- The polls that were made. -/
  polls : Nat
  world : World σ

/-- What part of a wait leads to. -/
inductive Turn (σ : Type) where
  /-- The wait is over. -/
  | ended (out : Except ConvergenceError Convergence × World σ)
  /-- Another poll is due. -/
  | again (standing : Standing σ)

/-- The time at which a wait that began at `started` gives up. -/
def deadline (wait : Wait) (started : Nat) : Nat := started + wait.config.timeout.ticks

/-- What a wait that succeeds answers. -/
def success (wait : Wait) (polls : Nat) (elapsed : Duration) (progress : Option Progress) :
    Convergence where
  service := wait.service
  mode := wait.mode
  polls := min polls pollLimit
  elapsed := elapsed
  progress := progress

/-- One poll and the pause behind it. -/
def turn (wait : Wait) (client : Client σ) (token : Token) (started : Nat)
    (standing : Standing σ) : Turn σ :=
  if (wait.remaining started standing.world.now).isZero then
    .ended (.error wait.timedOut, standing.world)
  else
    match wait.poll client token started standing.session standing.world with
    | (.cancelled, after) => .ended (.error wait.cancelled, after)
    | (.expired, after) => .ended (.error wait.timedOut, after)
    | (.finished (.error error, _), after) => .ended (.error error, after)
    | (.finished (.ok observation, session), polled) =>
      match observation.outcome with
      | .converged =>
        .ended (.ok (wait.success (standing.polls + 1) (.ofMillis (polled.now - started))
          observation.progress), polled)
      | .failed failure => .ended (.error (wait.rolledOut failure), polled)
      | .pending =>
        match wait.pause token started standing.interval polled with
        | (false, after) => .ended (.error wait.cancelled, after)
        | (true, after) =>
          .again ⟨session, wait.config.nextInterval standing.interval, standing.polls + 1, after⟩

/-- The pause of a wait is a pause on the clock, cut at the deadline. -/
theorem pause_eq (wait : Wait) (token : Token) (started : Nat) (length : Duration) (w : World σ) :
    wait.pause token started length w =
      w.pause token (min length (wait.remaining started w.now)) := rfl

/-- What comes before the first poll: the look at the number of replicas, and the delay. -/
def opening (wait : Wait) (client : Client σ) (token : Token) (w : World σ) : Turn σ :=
  match wait.preflight client token w with
  | (.error error, after) => .ended (.error error, after)
  | (.ok (), inspected) =>
    match wait.pause token w.now wait.config.delay inspected with
    | (false, after) => .ended (.error wait.cancelled, after)
    | (true, after) => .again ⟨.start wait.service, wait.config.minInterval, 0, after⟩

/-- Turns taken one after another until the wait is over, and their number. -/
inductive Unfolds (wait : Wait) (client : Client σ) (token : Token) (started : Nat) :
    Turn σ → Nat → Except ConvergenceError Convergence × World σ → Prop where
  | ended (out : Except ConvergenceError Convergence × World σ) :
      Unfolds wait client token started (.ended out) 0 out
  | again {standing : Standing σ} {turns : Nat}
      {out : Except ConvergenceError Convergence × World σ}
      (rest : Unfolds wait client token started (wait.turn client token started standing)
        turns out) :
      Unfolds wait client token started (.again standing) (turns + 1) out

variable {wait : Wait} {client : Client σ} {token : Token} {started : Nat}

namespace Unfolds

/-- Turns have one end. -/
theorem unique {turn : Turn σ} {turns others : Nat}
    {out other : Except ConvergenceError Convergence × World σ}
    (first : Unfolds wait client token started turn turns out)
    (second : Unfolds wait client token started turn others other) : out = other := by
  induction first generalizing others with
  | ended out => cases second; rfl
  | again rest ih =>
    cases second with
    | again rest' => exact ih rest'

/-- **From turns to waits.** What every turn preserves holds at the end of a wait. -/
theorem invariant {holds : Turn σ → Prop}
    (step : ∀ standing, holds (.again standing) → holds (wait.turn client token started standing))
    {turn : Turn σ} {turns : Nat} {out : Except ConvergenceError Convergence × World σ}
    (unfolds : Unfolds wait client token started turn turns out) (start : holds turn) :
    holds (.ended out) := by
  induction unfolds with
  | ended out => exact start
  | again rest ih => exact ih (step _ start)

end Unfolds

/-- The ways in which a turn can go. -/
inductive TurnEnds (wait : Wait) (client : Client σ) (token : Token) (started : Nat)
    (standing : Standing σ) : Turn σ → Prop where
  | late (late : (wait.remaining started standing.world.now).isZero = true) :
      TurnEnds wait client token started standing (.ended (.error wait.timedOut, standing.world))
  | cancelled {after : World σ} (left : ¬(wait.remaining started standing.world.now).isZero = true)
      (poll : wait.poll client token started standing.session standing.world =
        (.cancelled, after)) :
      TurnEnds wait client token started standing (.ended (.error wait.cancelled, after))
  | expired {after : World σ} (left : ¬(wait.remaining started standing.world.now).isZero = true)
      (poll : wait.poll client token started standing.session standing.world = (.expired, after)) :
      TurnEnds wait client token started standing (.ended (.error wait.timedOut, after))
  | refused {error : ConvergenceError} {session : Session} {after : World σ}
      (left : ¬(wait.remaining started standing.world.now).isZero = true)
      (poll : wait.poll client token started standing.session standing.world =
        (.finished (.error error, session), after)) :
      TurnEnds wait client token started standing (.ended (.error error, after))
  | converged {observation : Observation} {session : Session} {after : World σ}
      (left : ¬(wait.remaining started standing.world.now).isZero = true)
      (poll : wait.poll client token started standing.session standing.world =
        (.finished (.ok observation, session), after))
      (outcome : observation.outcome = .converged) :
      TurnEnds wait client token started standing
        (.ended (.ok (wait.success (standing.polls + 1) (.ofMillis (after.now - started))
          observation.progress), after))
  | rolledOut {observation : Observation} {session : Session} {failure : RolloutFailure}
      {after : World σ} (left : ¬(wait.remaining started standing.world.now).isZero = true)
      (poll : wait.poll client token started standing.session standing.world =
        (.finished (.ok observation, session), after))
      (outcome : observation.outcome = .failed failure) :
      TurnEnds wait client token started standing (.ended (.error (wait.rolledOut failure), after))
  | interrupted {observation : Observation} {session : Session} {polled after : World σ}
      (left : ¬(wait.remaining started standing.world.now).isZero = true)
      (poll : wait.poll client token started standing.session standing.world =
        (.finished (.ok observation, session), polled))
      (outcome : observation.outcome = .pending)
      (pause : wait.pause token started standing.interval polled = (false, after)) :
      TurnEnds wait client token started standing (.ended (.error wait.cancelled, after))
  | pending {observation : Observation} {session : Session} {polled after : World σ}
      (left : ¬(wait.remaining started standing.world.now).isZero = true)
      (poll : wait.poll client token started standing.session standing.world =
        (.finished (.ok observation, session), polled))
      (outcome : observation.outcome = .pending)
      (pause : wait.pause token started standing.interval polled = (true, after)) :
      TurnEnds wait client token started standing
        (.again ⟨session, wait.config.nextInterval standing.interval, standing.polls + 1, after⟩)

/-- **A turn ends** in one of these ways. All that is known of one comes from here. -/
theorem turn_ends (wait : Wait) (client : Client σ) (token : Token) (started : Nat)
    (standing : Standing σ) :
    TurnEnds wait client token started standing (wait.turn client token started standing) := by
  unfold turn
  split
  · next late => exact .late late
  · next left =>
    split
    · next poll => exact .cancelled left poll
    · next poll => exact .expired left poll
    · next poll => exact .refused left poll
    · next poll =>
      split
      · next outcome => exact .converged left poll outcome
      · next outcome => exact .rolledOut left poll outcome
      · next outcome =>
        split
        · next pause => exact .interrupted left poll outcome pause
        · next pause => exact .pending left poll outcome pause

/-- A turn goes in one way only. -/
theorem TurnEnds.turn_eq {standing : Standing σ} {turn : Turn σ}
    (ends : TurnEnds wait client token started standing turn) :
    wait.turn client token started standing = turn := by
  cases ends <;> simp only [Wait.turn, *, ↓reduceIte, Bool.false_eq_true]

/-- The ways in which the time before the first poll can go. -/
inductive OpeningEnds (wait : Wait) (client : Client σ) (token : Token) (w : World σ) :
    Turn σ → Prop where
  | cancelled {after : World σ}
      (look : w.race client (wait.deadline w.now) token (.inspectService wait.service) =
        (.cancelled, after)) :
      OpeningEnds wait client token w (.ended (.error wait.cancelled, after))
  | expired {after : World σ}
      (look : w.race client (wait.deadline w.now) token (.inspectService wait.service) =
        (.expired, after)) :
      OpeningEnds wait client token w (.ended (.error wait.timedOut, after))
  | refused {source : ClusterError} {after : World σ}
      (look : w.race client (wait.deadline w.now) token (.inspectService wait.service) =
        (.finished (.error source), after)) :
      OpeningEnds wait client token w
        (.ended (.error (.cluster wait.service wait.config.timeout source), after))
  | uncounted {service : Service} {after : World σ}
      (look : w.race client (wait.deadline w.now) token (.inspectService wait.service) =
        (.finished (.ok service), after))
      (uncounted : service.replicas? = none) :
      OpeningEnds wait client token w (.ended (.error (.noReplicaCount wait.service), after))
  | interrupted {service : Service} {replicas : Nat} {inspected after : World σ}
      (look : w.race client (wait.deadline w.now) token (.inspectService wait.service) =
        (.finished (.ok service), inspected))
      (counted : service.replicas? = some replicas)
      (pause : wait.pause token w.now wait.config.delay inspected = (false, after)) :
      OpeningEnds wait client token w (.ended (.error wait.cancelled, after))
  | opened {service : Service} {replicas : Nat} {inspected after : World σ}
      (look : w.race client (wait.deadline w.now) token (.inspectService wait.service) =
        (.finished (.ok service), inspected))
      (counted : service.replicas? = some replicas)
      (pause : wait.pause token w.now wait.config.delay inspected = (true, after)) :
      OpeningEnds wait client token w
        (.again ⟨.start wait.service, wait.config.minInterval, 0, after⟩)

/-- And an opening ends in one of these. -/
theorem opening_ends (wait : Wait) (client : Client σ) (token : Token) (w : World σ) :
    OpeningEnds wait client token w (wait.opening client token w) := by
  unfold opening preflight
  rcases look : w.race client (w.now + wait.config.timeout.ticks) token
    (.inspectService wait.service) with ⟨answer | _ | _, after⟩
  · cases answer with
    | error source => exact .refused look
    | ok service =>
      cases counted : service.replicas? with
      | none =>
        simp only [counted]
        exact .uncounted look counted
      | some replicas =>
        rcases pause : wait.pause token w.now wait.config.delay after with ⟨awake, later⟩
        cases awake with
        | false =>
          simp only [counted, pause]
          exact .interrupted look counted pause
        | true =>
          simp only [counted, pause]
          exact .opened look counted pause
  · exact .expired look
  · exact .cancelled look

/-- What comes before the first poll goes in one way only. -/
theorem OpeningEnds.opening_eq {w : World σ} {turn : Turn σ}
    (ends : OpeningEnds wait client token w turn) : wait.opening client token w = turn := by
  have due : w.now + wait.config.timeout.ticks = wait.deadline w.now := rfl
  cases ends <;> simp only [opening, preflight, *]

/-- A turn that ends the wait is its last one. -/
private theorem TurnEnds.unfolds {standing : Standing σ}
    {out : Except ConvergenceError Convergence × World σ}
    (ends : TurnEnds wait client token started standing (.ended out)) :
    ∃ turns, Unfolds wait client token started (.again standing) turns out :=
  ⟨1, .again (ends.turn_eq ▸ .ended out)⟩

/-- The loop is its turns, one after another, until one of them ends it. -/
theorem pollOn_unfolds (valid : wait.config.Valid) (session : Session) (interval : Duration)
    (positive : 0 < interval.nanos) (polls : Nat) (w : World σ) :
    ∃ turns, Unfolds wait client token started (.again ⟨session, interval, polls, w⟩) turns
      (wait.pollOn client token started valid session interval positive polls w) := by
  fun_induction wait.pollOn client token started valid session interval positive polls w with
  | case1 _ _ _ _ _ late => exact TurnEnds.unfolds (.late late)
  | case2 _ _ _ _ _ left _ poll => exact TurnEnds.unfolds (.cancelled left poll)
  | case3 _ _ _ _ _ left _ poll => exact TurnEnds.unfolds (.expired left poll)
  | case4 _ _ _ _ _ left _ _ _ poll => exact TurnEnds.unfolds (.refused left poll)
  | case5 _ _ _ _ _ left _ _ _ poll outcome => exact TurnEnds.unfolds (.converged left poll outcome)
  | case6 _ _ _ _ _ left _ _ _ poll _ outcome =>
    exact TurnEnds.unfolds (.rolledOut left poll outcome)
  | case7 _ _ _ _ _ left _ _ _ poll outcome _ pause =>
    exact TurnEnds.unfolds (.interrupted left poll outcome pause)
  | case8 session interval _ polls w left _ _ _ poll outcome _ pause ih =>
    obtain ⟨turns, rest⟩ := ih
    have goes : TurnEnds wait client token started ⟨session, interval, polls, w⟩ _ :=
      .pending left poll outcome pause
    exact ⟨turns + 1, .again (goes.turn_eq ▸ rest)⟩

/-- A wait that cannot be driven ends at once. -/
theorem run_of_fault {fault : ConfigFault} (found : wait.config.fault? = some fault)
    (client : Client σ) (token : Token) (w : World σ) :
    wait.run client token w = (.error (.invalidConfig fault), w) := by
  unfold run
  split
  · next other found' =>
    rw [found] at found'
    cases found'
    rfl
  · next checked => simp [found] at checked

/-- **A wait ends.** With a valid configuration, its turns come to an end, which is what the
wait answers. -/
theorem run_unfolds (valid : wait.config.Valid) (client : Client σ) (token : Token)
    (w : World σ) :
    ∃ turns, Unfolds wait client token w.now (wait.opening client token w) turns
      (wait.run client token w) := by
  unfold run
  split
  · next fault found =>
    rw [ConvergenceConfig.fault?_eq_none_iff.mpr valid] at found
    cases found
  · next checked =>
    unfold opening
    dsimp only
    rcases wait.preflight client token w with ⟨error | _, inspected⟩
    · exact ⟨0, .ended _⟩
    · dsimp only
      rcases wait.pause token w.now wait.config.delay inspected with ⟨awake | awake, after⟩
      · exact ⟨0, .ended _⟩
      · exact pollOn_unfolds _ _ _ _ _ _

end ReplicaWatch.Wait
