import ReplicaWatch.Proofs.Clock.Journal

/-! # The pauses in a journal

A pause that begins is written into the journal (`World.pauses_pause`), and calls write none there
(`Dialogue.pauses_race`). A caller whose call was answered has not been cancelled at that time
(`World.unfired_of_race`), so that a pause right behind it does begin.
-/

namespace ReplicaWatch

variable {σ α : Type} {client : Client σ} {deadline : Nat} {token : Token}

/-- A token that interrupts nothing has not fired. -/
theorem Token.hasFired_of_interruption? {wake : Nat}
    (uninterrupted : token.interruption? wake = none) : token.hasFired wake = false := by
  unfold interruption? at uninterrupted
  unfold hasFired
  cases fires : token.firesAt with
  | none => rfl
  | some time => simpa [fires] using uninterrupted

namespace World

/-- The pauses that were begun, with the times at which they were. -/
def pauses (w : World σ) : List (Nat × Duration) :=
  w.journal.reverse.filterMap fun
    | .called _ _ => none
    | .paused time length => some (time, length)

theorem pauses_congr {w v : World σ} (same : w.journal = v.journal) : w.pauses = v.pauses := by
  simp only [pauses, same]

theorem pauses_called (now time : Nat) (state : σ) (call : Call) (journal : List Event) :
    pauses ⟨now, state, .called time call :: journal⟩ = pauses ⟨now, state, journal⟩ := by
  simp [pauses]

theorem pauses_paused (now time : Nat) (state : σ) (length : Duration) (journal : List Event) :
    pauses ⟨now, state, .paused time length :: journal⟩ =
      pauses ⟨now, state, journal⟩ ++ [(time, length)] := by
  simp [pauses]

/-- The pauses that were begun between two worlds of one run. -/
def pausesUntil (before after : World σ) : List (Nat × Duration) :=
  after.pauses.drop before.pauses.length

/-- The pauses in between are what the later world has behind those of the earlier one. -/
theorem pausesUntil_eq {before after : World σ} {begun : List (Nat × Duration)}
    (pauses : after.pauses = before.pauses ++ begun) : before.pausesUntil after = begun := by
  rw [pausesUntil, pauses, List.drop_left]

/-- A race begins no pause. -/
theorem pauses_race (client : Client σ) (deadline : Nat) (token : Token) (call : Call)
    (w : World σ) : (w.race client deadline token call).2.pauses = w.pauses := by
  rcases journal_race client deadline token call w with unwritten | written
  · exact pauses_congr unwritten
  · have same : (w.race client deadline token call).2.pauses =
        pauses ⟨w.now, w.state, .called w.now call :: w.journal⟩ := pauses_congr written
    rw [same, pauses_called]

/-- As long as the token has not fired, a pause begins. -/
theorem pauses_pause {w : World σ} (unfired : token.hasFired w.now = false) (length : Duration) :
    (w.pause token length).2.pauses = w.pauses ++ [(w.now, length)] := by
  have ends := pause_ends token length w
  generalize w.pause token length = ended at ends ⊢
  cases ends with
  | fired fired =>
    rw [unfired] at fired
    cases fired
  | interrupted =>
    rw [pauses_paused]
    exact congrArg (· ++ _) (pauses_congr rfl)
  | slept =>
    rw [pauses_paused]
    exact congrArg (· ++ _) (pauses_congr rfl)

/-- When a call is answered the token has not fired. -/
theorem unfired_of_race {call : Call} {w after : World σ} {answer : call.Answer}
    (answered : w.race client deadline token call = (.finished answer, after)) :
    token.hasFired after.now = false := by
  have ends := race_ends client deadline token call w
  rw [answered] at ends
  cases ends with
  | answered _ uninterrupted => exact Token.hasFired_of_interruption? uninterrupted

end World

namespace Dialogue

/-- A dialogue begins no pause. -/
theorem pauses_race (client : Client σ) (deadline : Nat) (token : Token)
    (dialogue : Dialogue Call Call.Answer α) (w : World σ) :
    (dialogue.race client deadline token w).2.pauses = w.pauses := by
  induction dialogue generalizing w with
  | finish result => rfl
  | ask call next ih =>
    have first := World.pauses_race client deadline token call w
    unfold race
    split
    · next answer after raced =>
      rw [raced] at first
      exact (ih answer after).trans first
    · next after raced => rwa [raced] at first
    · next after raced => rwa [raced] at first

/-- A dialogue that is finished has not been cancelled. -/
theorem unfired_of_race {dialogue : Dialogue Call Call.Answer α} {w after : World σ} {result : α}
    (finished : dialogue.race client deadline token w = (.finished result, after))
    (unfired : token.hasFired w.now = false) : token.hasFired after.now = false := by
  induction dialogue generalizing w with
  | finish result => cases finished; exact unfired
  | ask call next ih =>
    unfold race at finished
    split at finished
    · next answer middle raced => exact ih answer finished (World.unfired_of_race raced)
    · cases finished
    · cases finished

end Dialogue

end ReplicaWatch
