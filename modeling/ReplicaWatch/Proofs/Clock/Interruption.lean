import ReplicaWatch.Proofs.Clock.Growth

/-! # Being interrupted

A race, a pause or a dialogue is held twice from one world, once with a token that never fires
and once with a token that fires at some later time. If the first is over by then, the second
is the same; and else the second is cancelled at just that time, and has made no calls but those
of the first (`World.race_firing`, `World.pause_firing`, `Dialogue.race_firing`).
-/

namespace ReplicaWatch

variable {σ α : Type} {time : Nat}

namespace Token

/-- A token that fires at some time. -/
def firing (time : Nat) : Token := ⟨some time⟩

/-- A firing token has fired from its time on. -/
theorem hasFired_firing_iff {now : Nat} : (firing time).hasFired now = true ↔ time ≤ now := by
  simp [hasFired, firing]

/-- It interrupts a wait that lasts until then. -/
theorem interruption?_firing_of_le {wake : Nat} (early : time ≤ wake) :
    (firing time).interruption? wake = some time := by
  simp [interruption?, firing, early]

/-- It does not interrupt one that is over before. -/
theorem interruption?_firing_of_lt {wake : Nat} (late : wake < time) :
    (firing time).interruption? wake = none := by
  simp [interruption?, firing, late]

end Token

namespace World

/-- What is left of a run when it is cut off at some time: it would not have been over before,
and it has made no other calls than it would have made. -/
structure CutOff (time : Nat) (cut free : World σ) : Prop where
  late : time ≤ free.now
  now : cut.now = time
  calls : cut.calls <+: free.calls

/-- What was cut off stays so, however the other run goes on. -/
theorem CutOff.extend {allowed : Nat → Call → Prop} {cut free later : World σ}
    (off : CutOff time cut free) (grows : Grows allowed free later) : CutOff time cut later where
  late := Nat.le_trans off.late grows.later
  now := off.now
  calls := by
    rw [grows.calls_eq]
    exact off.calls.trans (List.prefix_append _ _)

private theorem outwait_never (deadline : Nat) (w : World σ) :
    outwait (α := α) .never deadline w = (.expired, w.movedTo (max w.now deadline)) := rfl

/-- Waiting for an answer that does not come is cut when the token fires by the deadline. -/
private theorem outwait_firing (deadline : Nat) {w : World σ} (ahead : w.now < time) :
    (outwait (α := α) .never deadline w).2.now < time ∧
        outwait (α := α) (.firing time) deadline w = outwait .never deadline w ∨
      ∃ cut, outwait (α := α) (.firing time) deadline w = (.cancelled, cut) ∧
        CutOff time cut (outwait (α := α) .never deadline w).2 := by
  rw [outwait_never]
  unfold outwait
  by_cases early : time ≤ deadline
  · right
    rw [Token.interruption?_firing_of_le early]
    refine ⟨w.movedTo time, rfl, ?_, rfl, List.prefix_rfl⟩
    exact Nat.le_trans early (Nat.le_max_right _ _)
  · left
    have late := Nat.lt_of_not_le early
    rw [Token.interruption?_firing_of_lt late]
    exact ⟨Nat.max_lt.mpr ⟨ahead, late⟩, rfl⟩

/-- A race that a token may interrupt. -/
theorem race_firing (client : Client σ) (deadline : Nat) (call : Call) {w : World σ}
    (ahead : w.now < time) :
    (w.race client deadline .never call).2.now < time ∧
        w.race client deadline (.firing time) call = w.race client deadline .never call ∨
      ∃ cut, w.race client deadline (.firing time) call = (.cancelled, cut) ∧
        CutOff time cut (w.race client deadline .never call).2 := by
  have unfired : ¬(Token.firing time).hasFired w.now = true := by
    rw [Token.hasFired_firing_iff]
    exact Nat.not_le_of_lt ahead
  have never : ¬Token.never.hasFired w.now = true := nofun
  unfold race
  rw [if_neg unfired, if_neg never, send_eq]
  dsimp only
  generalize w.now + (client.travel call w.state).1 = arrival
  by_cases lost : deadline < arrival
  · rw [if_pos lost, if_pos lost]
    apply outwait_firing deadline
    exact ahead
  · rw [if_neg lost, if_neg lost, Token.interruption?_never]
    by_cases early : time ≤ arrival
    · -- The token fires while the call is under way, whatever would have come of it.
      right
      rw [Token.interruption?_firing_of_le early]
      refine ⟨_, rfl, ?_⟩
      rcases client.answer call (client.travel call w.state).2 with ⟨reply | reply, state⟩
      · exact ⟨Nat.le_trans early (Nat.le_max_left _ _), rfl, List.prefix_rfl⟩
      · exact ⟨early, rfl, List.prefix_rfl⟩
    · have late := Nat.lt_of_not_le early
      rw [Token.interruption?_firing_of_lt late]
      rcases client.answer call (client.travel call w.state).2 with ⟨reply | reply, state⟩
      · apply outwait_firing deadline
        exact late
      · exact .inl ⟨late, rfl⟩

/-- Nobody interrupts a pause with a token that never fires. -/
theorem pause_never (length : Duration) (w : World σ) :
    w.pause .never length =
      (true, ⟨w.now + length.ticks, w.state, .paused w.now length :: w.journal⟩) := by
  have ends := pause_ends .never length w
  generalize w.pause .never length = ended at ends ⊢
  cases ends with
  | fired fired => cases fired
  | interrupted _ fires => cases fires
  | slept => rfl

/-- A pause that a token may interrupt. -/
theorem pause_firing (length : Duration) {w : World σ} (ahead : w.now < time) :
    (w.pause .never length).2.now < time ∧
        w.pause (.firing time) length = w.pause .never length ∨
      ∃ cut, w.pause (.firing time) length = (false, cut) ∧
        CutOff time cut (w.pause .never length).2 := by
  have woken : (w.pause .never length).2.now = w.now + length.ticks := by rw [pause_never]
  have unasked : (w.pause .never length).2.calls = w.calls := by
    rw [pause_never, calls_paused]
    exact calls_congr rfl
  have ends := pause_ends (.firing time) length w
  generalize w.pause (.firing time) length = ended at ends ⊢
  cases ends with
  | fired fired => exact absurd (Token.hasFired_firing_iff.mp fired) (Nat.not_le_of_lt ahead)
  | interrupted _ fires _ early =>
    cases fires
    right
    refine ⟨_, rfl, ?_, rfl, ?_⟩
    · rw [woken]
      exact early
    · rw [unasked, calls_paused]
      exact List.prefix_rfl
  | slept _ uninterrupted =>
    left
    refine ⟨?_, (pause_never length w).symm⟩
    apply Decidable.byContradiction
    intro late
    rw [Token.interruption?_firing_of_le (woken ▸ Nat.le_of_not_lt late)] at uninterrupted
    cases uninterrupted

end World

/-- A dialogue that a token may interrupt. -/
theorem Dialogue.race_firing (client : Client σ) (deadline : Nat)
    (dialogue : Dialogue Call Call.Answer α) {w : World σ} (ahead : w.now < time) :
    (dialogue.race client deadline .never w).2.now < time ∧
        dialogue.race client deadline (.firing time) w = dialogue.race client deadline .never w ∨
      ∃ cut, dialogue.race client deadline (.firing time) w = (.cancelled, cut) ∧
        World.CutOff time cut (dialogue.race client deadline .never w).2 := by
  induction dialogue generalizing w with
  | finish result => exact .inl ⟨ahead, rfl⟩
  | ask call next ih =>
    unfold Dialogue.race
    rcases World.race_firing client deadline call ahead with ⟨prior, same⟩ | ⟨cut, cancelled, off⟩
    · rw [same]
      rcases raced : w.race client deadline .never call with ⟨answer | _ | _, after⟩
      · rw [raced] at prior
        exact ih answer prior
      · rw [raced] at prior
        exact .inl ⟨prior, rfl⟩
      · rw [raced] at prior
        exact .inl ⟨prior, rfl⟩
    · right
      rw [cancelled]
      refine ⟨cut, rfl, ?_⟩
      rcases raced : w.race client deadline .never call with ⟨answer | _ | _, after⟩
      · rw [raced] at off
        exact off.extend
          (race_upholds (World.grows_law client .never _) deadline (next answer).asks_any after)
      · rwa [raced] at off
      · rwa [raced] at off

end ReplicaWatch
