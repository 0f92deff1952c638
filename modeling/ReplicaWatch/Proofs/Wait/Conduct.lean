import ReplicaWatch.Proofs.Clock.Growth
import ReplicaWatch.Proofs.Wait.Turn

/-! # What a wait upholds

A wait makes no moves but races of calls that look at its service, and pauses. So it upholds
every law of such moves (`Wait.run_upholds`).
-/

namespace ReplicaWatch.Wait

variable {σ : Type} {wait : Wait} {client : Client σ} {token : Token} {started : Nat}
  {law : World σ → World σ → Prop}

/-- The world in which part of a wait ends. -/
def Turn.world : Turn σ → World σ
  | .ended out => out.2
  | .again standing => standing.world

/-- The law holds between a world and the one in which part of a wait ends. -/
def Turn.Upholds (law : World σ → World σ → Prop) (w : World σ) (turn : Turn σ) : Prop :=
  law w turn.world

/-- A pause of a wait makes no call. -/
theorem pause_grows {allowed : Nat → Call → Prop} {length : Duration} {w after : World σ}
    {awake : Bool} (pause : wait.pause token started length w = (awake, after)) :
    World.Grows allowed w after := by
  have grows : World.Grows allowed w (wait.pause token started length w).2 :=
    World.grows_pause token (min length (wait.remaining started w.now)) w
  rwa [pause] at grows

/-- Behind its poll a turn makes no call. -/
theorem TurnEnds.grows {allowed : Nat → Call → Prop} {standing : Standing σ} {turn : Turn σ}
    (ends : TurnEnds wait client token started standing turn)
    (left : ¬(wait.remaining started standing.world.now).isZero = true) :
    World.Grows allowed (wait.poll client token started standing.session standing.world).2
      turn.world := by
  cases ends with
  | late late => exact absurd late left
  | cancelled _ poll => rw [poll]; exact .refl _
  | expired _ poll => rw [poll]; exact .refl _
  | refused _ poll => rw [poll]; exact .refl _
  | converged _ poll => rw [poll]; exact .refl _
  | rolledOut _ poll => rw [poll]; exact .refl _
  | interrupted _ poll _ pause => rw [poll]; exact pause_grows pause
  | pending _ poll _ pause => rw [poll]; exact pause_grows pause

/-- Before the first poll no call is made behind the look at the number of replicas. -/
theorem OpeningEnds.grows {allowed : Nat → Call → Prop} {w : World σ} {turn : Turn σ}
    (ends : OpeningEnds wait client token w turn) :
    World.Grows allowed
      (w.race client (wait.deadline w.now) token (.inspectService wait.service)).2
      turn.world := by
  cases ends with
  | cancelled look => rw [look]; exact .refl _
  | expired look => rw [look]; exact .refl _
  | refused look => rw [look]; exact .refl _
  | uncounted look => rw [look]; exact .refl _
  | interrupted look _ pause => rw [look]; exact pause_grows pause
  | opened look _ pause => rw [look]; exact pause_grows pause

section Law

variable (steps : World.StepLaw client token (Call.LooksAt wait.service) law)
include steps

/-- A poll upholds every law of its steps. -/
theorem poll_upholds {session : Session} {w after : World σ}
    {raced : Raced (Except ConvergenceError Observation × Session)}
    (poll : wait.poll client token started session w = (raced, after)) : law w after := by
  have upheld := Dialogue.race_upholds steps (w.now + (wait.remaining started w.now).ticks)
    (Session.poll_asks wait.mode wait.service wait.config.timeout session) w
  rwa [show Dialogue.race client _ token _ w = (raced, after) from poll] at upheld

theorem pause_upholds {length : Duration} {w after : World σ} {awake : Bool}
    (pause : wait.pause token started length w = (awake, after)) : law w after := by
  have upheld := steps.pause (min length (wait.remaining started w.now)) w
  rwa [← pause_eq, pause] at upheld

theorem look_upholds {deadline : Nat} {w after : World σ}
    {raced : Raced (Call.inspectService wait.service).Answer}
    (look : w.race client deadline token (.inspectService wait.service) = (raced, after)) :
    law w after := by
  have upheld := steps.race deadline w .service
  rwa [look] at upheld

/-- The opening, as a look and a pause, upholds what both uphold. -/
theorem opening_upholds (w : World σ) : law w (wait.opening client token w).world := by
  have ends := opening_ends wait client token w
  generalize wait.opening client token w = turn at ends ⊢
  cases ends with
  | cancelled look => exact look_upholds steps look
  | expired look => exact look_upholds steps look
  | refused look => exact look_upholds steps look
  | uncounted look => exact look_upholds steps look
  | interrupted look _ pause =>
    exact steps.trans (look_upholds steps look) (pause_upholds steps pause)
  | opened look _ pause =>
    exact steps.trans (look_upholds steps look) (pause_upholds steps pause)

/-- A turn, as a poll and a pause, does too. -/
theorem turn_upholds (standing : Standing σ) :
    law standing.world (wait.turn client token started standing).world := by
  have ends := turn_ends wait client token started standing
  generalize wait.turn client token started standing = turn at ends ⊢
  cases ends with
  | late => exact steps.refl _
  | cancelled _ poll => exact poll_upholds steps poll
  | expired _ poll => exact poll_upholds steps poll
  | refused _ poll => exact poll_upholds steps poll
  | converged _ poll => exact poll_upholds steps poll
  | rolledOut _ poll => exact poll_upholds steps poll
  | interrupted _ poll _ pause =>
    exact steps.trans (poll_upholds steps poll) (pause_upholds steps pause)
  | pending _ poll _ pause =>
    exact steps.trans (poll_upholds steps poll) (pause_upholds steps pause)

/-- By the turns of a wait, all that is left of it upholds the law. -/
theorem Unfolds.upholds {turn : Turn σ} {turns : Nat}
    {out : Except ConvergenceError Convergence × World σ}
    (unfolds : Unfolds wait client token started turn turns out) : law turn.world out.2 := by
  have preserved (standing : Standing σ) (upheld : (Turn.again standing).Upholds law turn.world) :
      (wait.turn client token started standing).Upholds law turn.world :=
    steps.trans upheld (turn_upholds steps standing)
  exact unfolds.invariant preserved (steps.refl turn.world)

end Law

/-- **A wait upholds the laws of its moves.** -/
theorem run_upholds (steps : World.StepLaw client token (Call.LooksAt wait.service) law)
    (w : World σ) : law w (wait.run client token w).2 := by
  cases checked : wait.config.fault? with
  | some fault =>
    rw [run_of_fault checked]
    exact steps.refl w
  | none =>
    have valid := ConvergenceConfig.fault?_eq_none_iff.mp checked
    obtain ⟨turns, unfolds⟩ := run_unfolds valid client token w
    exact steps.trans (opening_upholds steps w) (unfolds.upholds steps)

/-- The calls of a wait look at its service, and are made while the token has not fired. -/
theorem run_grows (wait : Wait) (client : Client σ) (token : Token) (w : World σ) :
    World.Grows (fun time call => token.hasFired time = false ∧ Call.LooksAt wait.service call) w
      (wait.run client token w).2 :=
  run_upholds (World.grows_law client token (Call.LooksAt wait.service)) w

end ReplicaWatch.Wait
