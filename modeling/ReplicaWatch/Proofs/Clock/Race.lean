import ReplicaWatch.Proofs.Dialogue.Conversation
import ReplicaWatch.Convergence.Clock

/-! # What a race comes to

A race of a call with a deadline and a token ends in one of four ways (`World.RaceEnds`),
and a pause in one of three (`World.PauseEnds`). All that is said elsewhere about time,
journals and clients is read off these two. What holds of every single race and pause
(`World.StepLaw`) carries over to a dialogue that makes its calls one after another
(`Dialogue.race_upholds`), and a dialogue that starts before its deadline never outlives it
(`Dialogue.race_now_le`).
-/

namespace ReplicaWatch

variable {σ α : Type}

/-- The states a client can be left in by a call: the call still travels, or it arrived. -/
inductive Client.Leads (client : Client σ) (call : Call) (state : σ) : σ → Prop where
  | travels : Leads client call state (client.travel call state).2
  | arrived : Leads client call state (client.answer call (client.travel call state).2).2

namespace Token

/-- A wait is interrupted when the token fires, if that is no later than its end. -/
theorem interruption?_eq_some_iff {token : Token} {wake time : Nat} :
    token.interruption? wake = some time ↔ token.firesAt = some time ∧ time ≤ wake := by
  simp [interruption?, Option.filter_eq_some_iff]

theorem hasFired_never (now : Nat) : never.hasFired now = false := rfl

theorem interruption?_never (wake : Nat) : never.interruption? wake = none := rfl

end Token

namespace World

/-- The ways in which a race can end, and the world that each leaves. -/
inductive RaceEnds (client : Client σ) (deadline : Nat) (token : Token) (call : Call)
    (w : World σ) : Raced call.Answer × World σ → Prop where
  | fired (fired : token.hasFired w.now = true) :
      RaceEnds client deadline token call w (.cancelled, w)
  | interrupted {time : Nat} {state : σ} (unfired : token.hasFired w.now = false)
      (fires : token.firesAt = some time) (later : w.now < time) (early : time ≤ deadline)
      (leads : client.Leads call w.state state) :
      RaceEnds client deadline token call w
        (.cancelled, ⟨time, state, .called w.now call :: w.journal⟩)
  | expired {state : σ} (unfired : token.hasFired w.now = false)
      (uninterrupted : token.interruption? deadline = none)
      (leads : client.Leads call w.state state) :
      RaceEnds client deadline token call w
        (.expired, ⟨max w.now deadline, state, .called w.now call :: w.journal⟩)
  | answered {answer : call.Answer} {state : σ} (unfired : token.hasFired w.now = false)
      (uninterrupted : token.interruption? (w.now + (client.travel call w.state).1) = none)
      (early : w.now + (client.travel call w.state).1 ≤ deadline)
      (replied : client.answer call (client.travel call w.state).2 = (some answer, state)) :
      RaceEnds client deadline token call w
        (.finished answer,
          ⟨w.now + (client.travel call w.state).1, state, .called w.now call :: w.journal⟩)

/-- What is left of a call whose answer does not come before the deadline. -/
private theorem raceEnds_outwait {client : Client σ} {deadline : Nat} {token : Token} {call : Call}
    {w : World σ} {now : Nat} {state : σ} (unfired : token.hasFired w.now = false)
    (reached : max now deadline = max w.now deadline) (leads : client.Leads call w.state state) :
    RaceEnds client deadline token call w
      (outwait token deadline ⟨now, state, .called w.now call :: w.journal⟩) := by
  unfold outwait
  split
  · next time fires =>
    have later := now_lt_of_interruption? unfired fires
    obtain ⟨fires, early⟩ := Token.interruption?_eq_some_iff.mp fires
    exact .interrupted unfired fires later early leads
  · next uninterrupted =>
    simp only [movedTo, reached]
    exact .expired unfired uninterrupted leads

theorem send_eq (client : Client σ) (call : Call) (w : World σ) :
    w.send client call = (w.now + (client.travel call w.state).1,
      ⟨w.now, (client.travel call w.state).2, .called w.now call :: w.journal⟩) := rfl

theorem call_eq (client : Client σ) (call : Call) (w : World σ) :
    w.call client call = ((client.answer call (client.travel call w.state).2).1,
      ⟨w.now + (client.travel call w.state).1,
        (client.answer call (client.travel call w.state).2).2, .called w.now call :: w.journal⟩) :=
  rfl

/-- **A race ends** in one of these ways. All that is known of one comes from here. -/
theorem race_ends (client : Client σ) (deadline : Nat) (token : Token) (call : Call)
    (w : World σ) :
    RaceEnds client deadline token call w (w.race client deadline token call) := by
  unfold race
  split
  · next fired => exact .fired fired
  · next fired =>
    have unfired : token.hasFired w.now = false := by simpa using fired
    rw [send_eq]
    dsimp only
    by_cases lost : deadline < w.now + (client.travel call w.state).1
    · rw [if_pos lost]
      exact raceEnds_outwait unfired rfl .travels
    · have early := Nat.le_of_not_lt lost
      rw [if_neg lost]
      split
      · next time fires =>
        have later := now_lt_of_interruption? unfired fires
        obtain ⟨fires, before⟩ := Token.interruption?_eq_some_iff.mp fires
        exact .interrupted unfired fires later (Nat.le_trans before early) .travels
      · next uninterrupted =>
        split
        · next answer state replied => exact .answered unfired uninterrupted early replied
        · next state silent =>
          have leads : client.Leads call w.state
              (client.answer call (client.travel call w.state).2).2 := .arrived
          rw [silent] at leads
          exact raceEnds_outwait unfired (by omega) leads

/-- The ways in which a pause can end, and the world that each leaves. -/
inductive PauseEnds (token : Token) (length : Duration) (w : World σ) : Bool × World σ → Prop where
  | fired (fired : token.hasFired w.now = true) : PauseEnds token length w (false, w)
  | interrupted {time : Nat} (unfired : token.hasFired w.now = false)
      (fires : token.firesAt = some time) (later : w.now < time)
      (early : time ≤ w.now + length.ticks) :
      PauseEnds token length w (false, ⟨time, w.state, .paused w.now length :: w.journal⟩)
  | slept (unfired : token.hasFired w.now = false)
      (uninterrupted : token.interruption? (w.now + length.ticks) = none) :
      PauseEnds token length w
        (true, ⟨w.now + length.ticks, w.state, .paused w.now length :: w.journal⟩)

/-- And a pause ends in one of these. -/
theorem pause_ends (token : Token) (length : Duration) (w : World σ) :
    PauseEnds token length w (w.pause token length) := by
  unfold pause
  split
  · next fired => exact .fired fired
  · next fired =>
    have unfired : token.hasFired w.now = false := by simpa using fired
    dsimp only
    split
    · next time fires =>
      have later := now_lt_of_interruption? unfired fires
      obtain ⟨fires, early⟩ := Token.interruption?_eq_some_iff.mp fires
      exact .interrupted unfired fires later early
    · next uninterrupted => exact .slept unfired uninterrupted

/-- A race leaves the client as it was, or as its own call leads it. -/
theorem race_leads (client : Client σ) (deadline : Nat) (token : Token) (call : Call)
    (w : World σ) :
    (w.race client deadline token call).2.state = w.state ∨
      client.Leads call w.state (w.race client deadline token call).2.state := by
  have ends := race_ends client deadline token call w
  generalize w.race client deadline token call = ended at ends ⊢
  cases ends with
  | fired => exact .inl rfl
  | interrupted _ _ _ _ leads => exact .inr leads
  | expired _ _ leads => exact .inr leads
  | answered _ _ _ replied =>
    have leads : client.Leads call w.state
        (client.answer call (client.travel call w.state).2).2 := .arrived
    rw [replied] at leads
    exact .inr leads

/-- A pause leaves the client as it was. -/
theorem state_pause (token : Token) (length : Duration) (w : World σ) :
    (w.pause token length).2.state = w.state := by
  have ends := pause_ends token length w
  generalize w.pause token length = ended at ends ⊢
  rcases ended with ⟨awake, after⟩
  dsimp only
  cases ends <;> rfl

/-- A race that starts in time is over by its deadline. -/
theorem race_now_le (client : Client σ) {deadline : Nat} (token : Token) (call : Call)
    {w : World σ} (early : w.now ≤ deadline) :
    (w.race client deadline token call).2.now ≤ deadline := by
  have ends := race_ends client deadline token call w
  generalize w.race client deadline token call = ended at ends ⊢
  cases ends with
  | fired => exact early
  | interrupted => assumption
  | expired => exact Nat.max_le.mpr ⟨early, Nat.le_refl _⟩
  | answered => assumption

/-- It only expires at the deadline itself. -/
theorem race_expired_now {client : Client σ} {deadline : Nat} {token : Token} {call : Call}
    {w after : World σ} (early : w.now ≤ deadline)
    (raced : w.race client deadline token call = (.expired, after)) : after.now = deadline := by
  have ends := race_ends client deadline token call w
  rw [raced] at ends
  cases ends with
  | expired => exact Nat.max_eq_right early

end World

/-- **Laws of single steps.** A relation between worlds that every race of an allowed call and
every pause upholds. Whatever is made of such races and pauses upholds it as well. -/
structure World.StepLaw (client : Client σ) (token : Token) (allowed : Call → Prop)
    (law : World σ → World σ → Prop) : Prop where
  refl : ∀ w, law w w
  trans : ∀ {first second third}, law first second → law second third → law first third
  race : ∀ deadline {call} w, allowed call → law w (w.race client deadline token call).2
  pause : ∀ length w, law w (w.pause token length).2

namespace Dialogue

/-- A dialogue of allowed calls upholds the laws of its steps. -/
theorem race_upholds {client : Client σ} {token : Token} {allowed : Call → Prop}
    {law : World σ → World σ → Prop} (steps : World.StepLaw client token allowed law)
    (deadline : Nat) {dialogue : Dialogue Call Call.Answer α} (asks : dialogue.Asks allowed)
    (w : World σ) : law w (dialogue.race client deadline token w).2 := by
  induction dialogue generalizing w with
  | finish result => exact steps.refl w
  | ask call next ih =>
    have first := steps.race deadline w asks.1
    unfold race
    split
    · next answer after raced =>
      rw [raced] at first
      exact steps.trans first (ih answer (asks.2 answer) after)
    · next after raced => rwa [raced] at first
    · next after raced => rwa [raced] at first

/-- A dialogue that is finished was held. -/
theorem race_answered {client : Client σ} {deadline : Nat} {token : Token}
    {dialogue : Dialogue Call Call.Answer α} {w after : World σ} {result : α}
    (finished : dialogue.race client deadline token w = (.finished result, after)) :
    ∃ exchanges, dialogue.Answered exchanges result := by
  induction dialogue generalizing w with
  | finish result => cases finished; exact ⟨[], .finish _⟩
  | ask call next ih =>
    unfold race at finished
    split at finished
    · next answer middle raced =>
      obtain ⟨exchanges, rest⟩ := ih answer finished
      exact ⟨_, .ask answer rest⟩
    · cases finished
    · cases finished

/-- A dialogue that starts before its deadline is over by then. -/
theorem race_now_le (client : Client σ) {deadline : Nat} (token : Token)
    (dialogue : Dialogue Call Call.Answer α) {w : World σ} (early : w.now ≤ deadline) :
    (dialogue.race client deadline token w).2.now ≤ deadline := by
  induction dialogue generalizing w with
  | finish result => exact early
  | ask call next ih =>
    have first := World.race_now_le client token call early
    unfold race
    split
    · next answer after raced =>
      rw [raced] at first
      exact ih answer first
    · next after raced => rwa [raced] at first
    · next after raced => rwa [raced] at first

/-- A dialogue that is given up for lack of time is given up at its deadline. -/
theorem race_expired_now {client : Client σ} {deadline : Nat} {token : Token}
    {dialogue : Dialogue Call Call.Answer α} {w after : World σ} (early : w.now ≤ deadline)
    (expired : dialogue.race client deadline token w = (.expired, after)) :
    after.now = deadline := by
  induction dialogue generalizing w with
  | finish result => cases expired
  | ask call next ih =>
    have first := World.race_now_le client token call early
    unfold race at expired
    split at expired
    · next answer middle raced =>
      rw [raced] at first
      exact ih answer first expired
    · next middle raced =>
      cases expired
      exact World.race_expired_now early raced
    · cases expired

end Dialogue

end ReplicaWatch
