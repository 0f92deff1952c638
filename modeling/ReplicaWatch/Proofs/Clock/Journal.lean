import ReplicaWatch.Proofs.Clock.Race

/-! # The calls in a journal

A race writes at most its own call into the journal, and a pause writes no call. So the
inspections of a service can be counted: a poll makes one at most
(`Session.inspections_poll_le`).
-/

namespace ReplicaWatch

variable {σ : Type}

namespace World

@[simp] theorem calls_called (now time : Nat) (state : σ) (call : Call) (journal : List Event) :
    calls ⟨now, state, .called time call :: journal⟩ =
      calls ⟨now, state, journal⟩ ++ [(time, call)] := by
  simp [calls]

@[simp] theorem calls_paused (now time : Nat) (state : σ) (length : Duration)
    (journal : List Event) :
    calls ⟨now, state, .paused time length :: journal⟩ = calls ⟨now, state, journal⟩ := by
  simp [calls]

/-- The calls depend on the journal alone. -/
theorem calls_congr {τ : Type} {w : World σ} {v : World τ} (same : w.journal = v.journal) :
    w.calls = v.calls := by
  simp only [calls, same]

/-- The inspections of services that were made. -/
def inspections (w : World σ) : Nat :=
  w.calls.countP fun made => decide (made.2.operation = .inspectService)

theorem inspections_congr {w v : World σ} (same : w.journal = v.journal) :
    w.inspections = v.inspections := by
  simp only [inspections, calls_congr same]

theorem inspections_called (now time : Nat) (state : σ) (call : Call) (journal : List Event) :
    inspections ⟨now, state, .called time call :: journal⟩ =
      inspections ⟨now, state, journal⟩ +
        if call.operation = .inspectService then 1 else 0 := by
  simp [inspections, List.countP_append, List.countP_singleton]

theorem inspections_paused (now time : Nat) (state : σ) (length : Duration)
    (journal : List Event) :
    inspections ⟨now, state, .paused time length :: journal⟩ =
      inspections ⟨now, state, journal⟩ := by
  simp [inspections]

/-- What a race writes into the journal. -/
theorem journal_race (client : Client σ) (deadline : Nat) (token : Token) (call : Call)
    (w : World σ) :
    (w.race client deadline token call).2.journal = w.journal ∨
      (w.race client deadline token call).2.journal = .called w.now call :: w.journal := by
  have ends := race_ends client deadline token call w
  generalize w.race client deadline token call = ended at ends ⊢
  cases ends with
  | fired => exact .inl rfl
  | interrupted => exact .inr rfl
  | expired => exact .inr rfl
  | answered => exact .inr rfl

/-- What a pause writes into the journal. -/
theorem journal_pause (token : Token) (length : Duration) (w : World σ) :
    (w.pause token length).2.journal = w.journal ∨
      (w.pause token length).2.journal = .paused w.now length :: w.journal := by
  have ends := pause_ends token length w
  generalize w.pause token length = ended at ends ⊢
  cases ends with
  | fired => exact .inl rfl
  | interrupted => exact .inr rfl
  | slept => exact .inr rfl

/-- A journal with one more call has at most one more inspection. -/
private theorem inspections_of_called {w after : World σ} {call : Call}
    (written : after.journal = .called w.now call :: w.journal) :
    after.inspections = w.inspections + if call.operation = .inspectService then 1 else 0 := by
  have same : after.inspections =
      inspections ⟨w.now, after.state, .called w.now call :: w.journal⟩ :=
    inspections_congr written
  rw [same, inspections_called]
  rfl

/-- A race makes at most one inspection. -/
theorem inspections_race_le (client : Client σ) (deadline : Nat) (token : Token) (call : Call)
    (w : World σ) :
    (w.race client deadline token call).2.inspections ≤ w.inspections + 1 := by
  rcases journal_race client deadline token call w with unwritten | written
  · rw [inspections_congr unwritten]
    exact Nat.le_succ _
  · rw [inspections_of_called written]
    split <;> omega

/-- A pause makes none. -/
theorem inspections_pause (token : Token) (length : Duration) (w : World σ) :
    (w.pause token length).2.inspections = w.inspections := by
  rcases journal_pause token length w with unwritten | written
  · exact inspections_congr unwritten
  · have same : (w.pause token length).2.inspections =
        inspections ⟨w.now, (w.pause token length).2.state, .paused w.now length :: w.journal⟩ :=
      inspections_congr written
    rw [same, inspections_paused]
    rfl

/-- Calls of the other kinds are no inspections. -/
theorem inspections_law (client : Client σ) (token : Token) :
    StepLaw client token (fun call => call.operation ≠ .inspectService)
      fun before after => after.inspections = before.inspections where
  refl _ := rfl
  trans first second := second.trans first
  race deadline call w other := by
    rcases journal_race client deadline token call w with unwritten | written
    · exact inspections_congr unwritten
    · rw [inspections_of_called written, if_neg other, Nat.add_zero]
  pause length w := inspections_pause token length w

end World

/-- A poll makes one inspection at most. -/
theorem Session.inspections_poll_le (client : Client σ) (deadline : Nat) (token : Token)
    (mode : ConvergenceMode) (id : String) (timeout : Duration) (session : Session)
    (w : World σ) :
    ((session.poll mode id timeout).race client deadline token w).2.inspections ≤
      w.inspections + 1 := by
  obtain ⟨next, poll, others⟩ := session.poll_inspects_once mode id timeout
  have first := World.inspections_race_le client deadline token (.inspectService id) w
  rw [poll]
  unfold Dialogue.race
  split
  · next inspected after raced =>
    rw [raced] at first
    rw [Dialogue.race_upholds (World.inspections_law client token) deadline (others inspected)]
    exact first
  · next after raced => rwa [raced] at first
  · next after raced => rwa [raced] at first

end ReplicaWatch
