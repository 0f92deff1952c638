import ReplicaWatch.Proofs.Clock.Recording
import ReplicaWatch.Proofs.Wait.Turn

/-! # Recording a wait

A wait cannot tell a client from a finer one that can be viewed as it (`Wait.run_view`). In
particular it runs with a recorded client as it does without the record
(`Wait.run_recorded`), so that what the record holds at the end are the answers that the
wait went by.
-/

namespace ReplicaWatch.Wait

variable {σ τ : Type} {fine : Client τ} {coarse : Client σ} {view : τ → σ} {wait : Wait}
  {token : Token} {started : Nat}

/-- Where a wait stands when the client's state is viewed in some way. -/
def Standing.map (view : τ → σ) (standing : Standing τ) : Standing σ :=
  ⟨standing.session, standing.interval, standing.polls, standing.world.map view⟩

/-- What part of a wait leads to when the client's state is viewed in some way. -/
def Turn.map (view : τ → σ) : Turn τ → Turn σ
  | .ended out => .ended (Prod.map id (World.map view) out)
  | .again standing => .again (standing.map view)

/-- A poll goes alike, however the client's state is viewed. -/
theorem poll_view (sees : fine.View coarse view) {session : Session} {w after : World τ}
    {raced : Raced (Except ConvergenceError Observation × Session)}
    (poll : wait.poll fine token started session w = (raced, after)) :
    wait.poll coarse token started session (w.map view) = (raced, after.map view) := by
  unfold Wait.poll at poll ⊢
  rw [World.now_map, Dialogue.race_view sees, poll]
  rfl

theorem pause_view (view : τ → σ) {length : Duration} {w after : World τ} {awake : Bool}
    (pause : wait.pause token started length w = (awake, after)) :
    wait.pause token started length (w.map view) = (awake, after.map view) := by
  rw [pause_eq] at pause ⊢
  rw [World.now_map, World.pause_view, pause]
  rfl

theorem turn_view (sees : fine.View coarse view) (standing : Standing τ) :
    wait.turn coarse token started (standing.map view) =
      (wait.turn fine token started standing).map view := by
  have ends := turn_ends wait fine token started standing
  generalize wait.turn fine token started standing = turn at ends ⊢
  cases ends with
  | late late => exact TurnEnds.turn_eq (.late late)
  | cancelled left poll => exact TurnEnds.turn_eq (.cancelled left (poll_view sees poll))
  | expired left poll => exact TurnEnds.turn_eq (.expired left (poll_view sees poll))
  | refused left poll => exact TurnEnds.turn_eq (.refused left (poll_view sees poll))
  | converged left poll outcome =>
    have seen : wait.turn coarse token started (standing.map view) = _ :=
      TurnEnds.turn_eq (.converged left (poll_view sees poll) outcome)
    rw [World.now_map] at seen
    exact seen
  | rolledOut left poll outcome =>
    exact TurnEnds.turn_eq (.rolledOut left (poll_view sees poll) outcome)
  | interrupted left poll outcome pause =>
    exact TurnEnds.turn_eq
      (.interrupted left (poll_view sees poll) outcome (pause_view view pause))
  | pending left poll outcome pause =>
    exact TurnEnds.turn_eq (.pending left (poll_view sees poll) outcome (pause_view view pause))

theorem preflight_view (sees : fine.View coarse view) (w : World τ) :
    wait.preflight coarse token (w.map view) =
      Prod.map id (World.map view) (wait.preflight fine token w) := by
  unfold preflight
  rw [World.now_map, World.race_view sees]
  rcases w.race fine (w.now + wait.config.timeout.ticks) token
    (.inspectService wait.service) with ⟨(source | service) | _ | _, after⟩
  · rfl
  · dsimp only [Prod.map, id_eq]
    cases service.replicas? with
    | none => rfl
    | some replicas => rfl
  · rfl
  · rfl

theorem opening_view (sees : fine.View coarse view) (w : World τ) :
    wait.opening coarse token (w.map view) = (wait.opening fine token w).map view := by
  unfold opening
  rw [preflight_view sees]
  rcases wait.preflight fine token w with ⟨error | _, inspected⟩
  · rfl
  · dsimp only [Prod.map, id_eq]
    rcases pause : wait.pause token w.now wait.config.delay inspected with ⟨awake | awake, after⟩
    · rw [World.now_map, pause_view view pause]
      rfl
    · rw [World.now_map, pause_view view pause]
      rfl

/-- Turns look as the turns of the client that is seen. -/
theorem Unfolds.viewed (sees : fine.View coarse view) {turn : Turn τ} {turns : Nat}
    {out : Except ConvergenceError Convergence × World τ}
    (unfolds : Unfolds wait fine token started turn turns out) :
    Unfolds wait coarse token started (turn.map view) turns
      (Prod.map id (World.map view) out) := by
  induction unfolds with
  | ended out => exact .ended _
  | @again standing turns out rest ih =>
    rw [← turn_view sees] at ih
    exact .again ih

/-- **Waiting with a finer client.** A wait does with a client what it does with any finer
one that can be viewed as it. -/
theorem run_view (sees : fine.View coarse view) (wait : Wait) (token : Token) (w : World τ) :
    wait.run coarse token (w.map view) =
      Prod.map id (World.map view) (wait.run fine token w) := by
  cases checked : wait.config.fault? with
  | some fault => rw [run_of_fault checked, run_of_fault checked]; rfl
  | none =>
    have valid := ConvergenceConfig.fault?_eq_none_iff.mp checked
    obtain ⟨turns, unfolds⟩ := run_unfolds valid fine token w
    obtain ⟨others, seen⟩ := run_unfolds valid coarse token (w.map view)
    rw [opening_view sees] at seen
    exact seen.unique (unfolds.viewed sees)

/-- **Waiting on the record.** A wait with a recorded client is the wait with the client. -/
theorem run_recorded (wait : Wait) (client : Client σ) (token : Token) (w : World σ)
    (record : List Call.Exchange) :
    ∃ extended, wait.run client.recorded token (w.recorded record) =
      Prod.map id (World.recorded · extended) (wait.run client token w) := by
  have seen := run_view client.recorded_view wait token (w.recorded record)
  rw [World.map_recorded] at seen
  rw [seen]
  exact ⟨_, rfl⟩

end ReplicaWatch.Wait
