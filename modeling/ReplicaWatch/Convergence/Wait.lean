import ReplicaWatch.Convergence.Clock
import ReplicaWatch.Convergence.Poll

/-! # Waiting for convergence

A wait is one loop: a check that the service gives a number of replicas, an initial
delay, then a poll, then an interval that doubles up to a ceiling. The deadline, which
is the timeout after the start, caps every pause and every poll, and every suspension
also races the caller's token.
-/

namespace ReplicaWatch

/-- A wait that succeeded. -/
structure Convergence where
  service : String
  mode : ConvergenceMode
  /-- The polls that were made, the successful one included. -/
  polls : Nat
  elapsed : Duration
  /-- The last count of the replicas; there is none when the rollout was completed
  before they were counted. -/
  progress : Option Progress
  deriving DecidableEq

/-- What to wait for, and how. -/
structure Wait where
  service : String
  config : ConvergenceConfig
  mode : ConvergenceMode
  deriving DecidableEq

namespace Wait

variable {σ : Type}

/-- The largest number of polls that is told apart. -/
def pollLimit : Nat := Nat.pow 2 32 - 1

/-- The time that is left at `now` of a wait that started at `started`. -/
def remaining (wait : Wait) (started now : Nat) : Duration :=
  wait.config.timeout.minusNanos ((now - started) * 1000000)

/-- The time ran out. -/
def timedOut (wait : Wait) : ConvergenceError := .didNotConverge wait.service wait.config.timeout

/-- The token fired. -/
def cancelled (wait : Wait) : ConvergenceError := .cancelled wait.service wait.config.timeout

/-- The rollout failed. -/
def rolledOut (wait : Wait) : RolloutFailure → ConvergenceError
  | .rollbackCompleted message => .rollbackCompleted wait.service wait.config.timeout message
  | .updatePaused message => .updatePaused wait.service wait.config.timeout message
  | .rollbackPaused message => .rollbackPaused wait.service wait.config.timeout message

/-- Sleeps, but not past the deadline. -/
def pause (wait : Wait) (token : Token) (started : Nat) (length : Duration) (w : World σ) :
    Bool × World σ :=
  w.pause token (min length (wait.remaining started w.now))

/-- One poll, not past the deadline. -/
def poll (wait : Wait) (client : Client σ) (token : Token) (started : Nat) (session : Session)
    (w : World σ) : Raced (Except ConvergenceError Observation × Session) × World σ :=
  (session.poll wait.mode wait.service wait.config.timeout).race client
    (w.now + (wait.remaining started w.now).ticks) token w

/-- A poll and the pause behind it take time, unless the deadline was there before. -/
theorem now_lt_pause {wait : Wait} {client : Client σ} {token : Token} {started : Nat}
    {session : Session} {interval : Duration} {w polled paused : World σ}
    {raced : Raced (Except ConvergenceError Observation × Session)}
    (left : ¬(wait.remaining started w.now).isZero = true) (positive : 0 < interval.nanos)
    (poll : wait.poll client token started session w = (raced, polled))
    (pause : wait.pause token started interval polled = (true, paused)) :
    w.now < paused.now ∧ w.now < started + wait.config.timeout.ticks := by
  have later : w.now ≤ polled.now := by
    have := Dialogue.now_le_race client (w.now + (wait.remaining started w.now).ticks) token
      (session.poll wait.mode wait.service wait.config.timeout) w
    have same : (wait.poll client token started session w).2 = polled := by rw [poll]
    rwa [← same]
  have woken : paused.now = polled.now + (min interval (wait.remaining started polled.now)).ticks := by
    simp only [Wait.pause, World.pause] at pause
    split at pause
    · cases pause
    · split at pause
      · cases pause
      · cases pause; rfl
  simp only [Duration.isZero_iff, remaining, Duration.nanos_minusNanos] at left
  simp only [Duration.ticks, Duration.nanos_min, remaining, Duration.nanos_minusNanos] at woken
  refine ⟨?_, by simp only [Duration.ticks]; omega⟩
  rcases Nat.lt_or_ge w.now polled.now with before | same
  · omega
  · have : polled.now = w.now := by omega
    rw [this] at woken
    omega

set_option linter.unusedVariables false in
/-- Polls until the wait is decided, from a time at which `polls` polls have been made
and the next interval is `interval`. -/
def pollOn (wait : Wait) (client : Client σ) (token : Token) (started : Nat)
    (valid : wait.config.Valid) (session : Session) (interval : Duration)
    (positive : 0 < interval.nanos) (polls : Nat) (w : World σ) :
    Except ConvergenceError Convergence × World σ :=
  if left : (wait.remaining started w.now).isZero then
    (.error wait.timedOut, w)
  else
    match poll : wait.poll client token started session w with
    | (.cancelled, w) => (.error wait.cancelled, w)
    | (.expired, w) => (.error wait.timedOut, w)
    | (.finished (.error error, _), w) => (.error error, w)
    | (.finished (.ok observation, session), polled) =>
      match observation.outcome with
      | .converged =>
        (.ok
          { service := wait.service
            mode := wait.mode
            polls := min (polls + 1) pollLimit
            elapsed := .ofMillis (polled.now - started)
            progress := observation.progress },
          polled)
      | .failed failure => (.error (wait.rolledOut failure), polled)
      | .pending =>
        match pause : wait.pause token started interval polled with
        | (false, w) => (.error wait.cancelled, w)
        | (true, paused) =>
          wait.pollOn client token started valid session (wait.config.nextInterval interval)
            (ConvergenceConfig.nextInterval_pos valid interval) (polls + 1) paused
termination_by started + wait.config.timeout.ticks - w.now
decreasing_by
  have := now_lt_pause left positive poll pause
  omega

/-- Checks that the service gives a number of replicas. -/
def preflight (wait : Wait) (client : Client σ) (token : Token) (w : World σ) :
    Except ConvergenceError Unit × World σ :=
  match w.race client (w.now + wait.config.timeout.ticks) token (.inspectService wait.service) with
  | (.cancelled, w) => (.error wait.cancelled, w)
  | (.expired, w) => (.error wait.timedOut, w)
  | (.finished (.error source), w) =>
    (.error (.cluster wait.service wait.config.timeout source), w)
  | (.finished (.ok service), w) =>
    match service.replicas? with
    | none => (.error (.noReplicaCount wait.service), w)
    | some _ => (.ok (), w)

/-- Waits until the service converges, fails for good, the time runs out, a call fails,
or the token fires. -/
def run (wait : Wait) (client : Client σ) (token : Token) (w : World σ) :
    Except ConvergenceError Convergence × World σ :=
  match checked : wait.config.fault? with
  | some fault => (.error (.invalidConfig fault), w)
  | none =>
    have valid := ConvergenceConfig.fault?_eq_none_iff.mp checked
    let started := w.now
    match wait.preflight client token w with
    | (.error error, w) => (.error error, w)
    | (.ok (), w) =>
      match wait.pause token started wait.config.delay w with
      | (false, w) => (.error wait.cancelled, w)
      | (true, w) =>
        wait.pollOn client token started valid (.start wait.service) wait.config.minInterval
          valid.minInterval_pos 0 w

end Wait

end ReplicaWatch
