import ReplicaWatch.Proofs.Wait.Turn

/-! # The clock of a wait

What is left of a wait is measured in nanoseconds and slept in whole milliseconds. In
milliseconds the two agree: a poll races exactly the deadline of its wait
(`Wait.poll_eq`), and a pause ends at the end of its length or at the deadline, whichever
is first (`Wait.now_of_pause_true`).
-/

namespace ReplicaWatch

variable {σ : Type}

namespace Duration

theorem ticks_min (d e : Duration) : (min d e).ticks = min d.ticks e.ticks := by
  simp only [ticks, nanos_min]
  omega

/-- A timer does not fire early. -/
theorem nanos_le_ticks (d : Duration) : d.nanos ≤ d.ticks * 1000000 := by
  simp only [ticks]
  omega

end Duration

namespace Wait

variable {wait : Wait} {client : Client σ} {token : Token} {started now : Nat}

/-- No time remains from the deadline on. -/
theorem remaining_isZero_iff (begun : started ≤ now) :
    (wait.remaining started now).isZero = true ↔ wait.deadline started ≤ now := by
  simp only [Duration.isZero_iff, remaining, Duration.nanos_minusNanos, deadline, Duration.ticks]
  omega

/-- What remains ends at the deadline. -/
theorem now_add_remaining (begun : started ≤ now) (punctual : now ≤ wait.deadline started) :
    now + (wait.remaining started now).ticks = wait.deadline started := by
  simp only [deadline, Duration.ticks, remaining, Duration.nanos_minusNanos] at *
  omega

/-- A poll races the deadline of its wait. -/
theorem poll_eq {w : World σ} (begun : started ≤ w.now)
    (punctual : w.now ≤ wait.deadline started) (session : Session) :
    wait.poll client token started session w =
      (session.poll wait.mode wait.service wait.config.timeout).race client
        (wait.deadline started) token w := by
  unfold poll
  rw [now_add_remaining begun punctual]

/-- A poll takes no time off the clock and none beyond the deadline. -/
theorem now_of_poll {w after : World σ} {session : Session}
    {raced : Raced (Except ConvergenceError Observation × Session)} (begun : started ≤ w.now)
    (punctual : w.now ≤ wait.deadline started)
    (poll : wait.poll client token started session w = (raced, after)) :
    w.now ≤ after.now ∧ after.now ≤ wait.deadline started := by
  rw [poll_eq begun punctual] at poll
  have later := Dialogue.now_le_race client (wait.deadline started) token
    (session.poll wait.mode wait.service wait.config.timeout) w
  have early := Dialogue.race_now_le client token
    (session.poll wait.mode wait.service wait.config.timeout) punctual
  rw [poll] at later early
  exact ⟨later, early⟩

/-- A pause of a wait is one of the clock, cut down to the time that remains. -/
theorem pause_ends {w after : World σ} {length : Duration} {awake : Bool}
    (pause : wait.pause token started length w = (awake, after)) :
    World.PauseEnds token (min length (wait.remaining started w.now)) w (awake, after) := by
  rw [← pause, pause_eq]
  exact World.pause_ends token _ w

/-- A pause makes no call. -/
theorem state_of_pause {w after : World σ} {length : Duration} {awake : Bool}
    (pause : wait.pause token started length w = (awake, after)) : after.state = w.state := by
  have same := World.state_pause token (min length (wait.remaining started w.now)) w
  rwa [← pause_eq, pause] at same

/-- A pause does not outlast its wait. -/
theorem now_of_pause {w after : World σ} {length : Duration} {awake : Bool}
    (begun : started ≤ w.now) (punctual : w.now ≤ wait.deadline started)
    (pause : wait.pause token started length w = (awake, after)) :
    w.now ≤ after.now ∧ after.now ≤ wait.deadline started := by
  have within : w.now + (min length (wait.remaining started w.now)).ticks ≤
      wait.deadline started := by
    have := now_add_remaining begun punctual
    rw [Duration.ticks_min]
    omega
  cases pause_ends pause with
  | fired => exact ⟨Nat.le_refl _, punctual⟩
  | interrupted _ _ later early => exact ⟨Nat.le_of_lt later, Nat.le_trans early within⟩
  | slept => exact ⟨Nat.le_add_right _ _, within⟩

/-- A pause that is not interrupted ends with its length or at the deadline. -/
theorem now_of_pause_true {w after : World σ} {length : Duration} (begun : started ≤ w.now)
    (punctual : w.now ≤ wait.deadline started)
    (pause : wait.pause token started length w = (true, after)) :
    after.now = min (w.now + length.ticks) (wait.deadline started) := by
  cases pause_ends pause with
  | slept =>
    have := now_add_remaining begun punctual
    rw [Duration.ticks_min]
    dsimp only
    omega

end Wait

end ReplicaWatch
