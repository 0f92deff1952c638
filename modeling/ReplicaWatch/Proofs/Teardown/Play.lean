import ReplicaWatch.Convergence.Teardown
import ReplicaWatch.Proofs.Clock.Race

/-! # How a teardown is played

A teardown makes calls that may take their time and waits that are bounded by a grace period.
What holds of every such move (`Teardown.MoveLaw`) holds of a whole play
(`Teardown.play_upholds`), and when no call goes without an answer, a play has a result
(`Teardown.play_isSome`).
-/

namespace ReplicaWatch

namespace Teardown

variable {σ α : Type}

/-- **Laws of single moves.** A relation between worlds that every allowed call and every
allowed grace wait upholds. -/
structure MoveLaw (client : Client σ) (token : Token) (allowed : Move → Prop)
    (law : World σ → World σ → Prop) : Prop where
  refl : ∀ w, law w w
  trans : ∀ {first second third}, law first second → law second third → law first third
  call : ∀ {request} w, allowed (.call request) → law w (w.call client request).2
  grace : ∀ {container period} deadline w, allowed (.grace container period) →
    law w (w.race client deadline token (.waitContainerRemoved container)).2

/-- A play of allowed moves upholds the laws of its moves. -/
theorem play_upholds {client : Client σ} {token : Token} {allowed : Move → Prop}
    {law : World σ → World σ → Prop} (moves : MoveLaw client token allowed law)
    {dialogue : Dialogue Move Move.Answer α} (asks : dialogue.Asks allowed) (w : World σ) :
    law w (play client token dialogue w).2 := by
  induction dialogue generalizing w with
  | finish result => exact moves.refl w
  | ask move next ih =>
    cases move with
    | call request =>
      have first := moves.call w asks.1
      unfold play
      split
      · next answer after called =>
        rw [called] at first
        exact moves.trans first (ih answer (asks.2 answer) after)
      · next after called => rwa [called] at first
    | grace container period =>
      have first := moves.grace (w.now + period.ticks) w asks.1
      exact moves.trans first (ih () (asks.2 ()) _)

/-- A play has a result when its calls are answered. -/
theorem play_isSome {client : Client σ} {token : Token} {allowed : Move → Prop}
    (answers : ∀ {request} (w : World σ), allowed (.call request) → (w.call client request).1.isSome)
    {dialogue : Dialogue Move Move.Answer α} (asks : dialogue.Asks allowed) (w : World σ) :
    (play client token dialogue w).1.isSome := by
  induction dialogue generalizing w with
  | finish result => rfl
  | ask move next ih =>
    cases move with
    | call request =>
      have first := answers w asks.1
      unfold play
      split
      · next answer after called => exact ih answer (asks.2 answer) after
      · next after called =>
        rw [called] at first
        cases first
    | grace container period => exact ih () (asks.2 ()) _

/-- The moves of a reaping. -/
inductive Move.Reaps : Move → Prop where
  | grace (container : String) (period : Duration) : Reaps (.grace container period)
  | remove (container : String) : Reaps (.call (.removeContainer container .forced))

/-- Reaping awaits and removes containers, and does nothing else. -/
theorem reap_asks (grace : Duration) (containers : List String) (report : TeardownReport) :
    (reap grace containers report).Asks Move.Reaps := by
  induction containers generalizing report with
  | nil => trivial
  | cons container rest ih =>
    refine ⟨.grace container grace, fun _ => ⟨.remove container, ?_⟩⟩
    intro removed
    cases removed with
    | ok done => exact ih _
    | error error =>
      dsimp only
      split
      · exact ih report
      · trivial

end Teardown

end ReplicaWatch
