import ReplicaWatch.Proofs.Clock.Logging
import ReplicaWatch.Proofs.Teardown.Play

/-! # Logging a teardown

A teardown with a logged client is the teardown with the client (`Teardown.run_view`), and its
log follows its dialogue (`Teardown.play_logs`): each call is logged with its answer, and the play
stops at a call that gets none; a grace wait is logged as well, however it ended, unless it was
skipped because the token had fired. Grace waits are begun only as long as it has not
(`Teardown.run_unhurried`).
-/

namespace ReplicaWatch

variable {σ τ α : Type}

namespace Teardown

section View

variable {fine : Client τ} {coarse : Client σ} {view : τ → σ}

/-- A play goes alike, however the client's state is viewed. -/
theorem play_view (sees : fine.View coarse view) (token : Token)
    (dialogue : Dialogue Move Move.Answer α) (w : World τ) :
    play coarse token dialogue (w.map view) =
      Prod.map id (World.map view) (play fine token dialogue w) := by
  induction dialogue generalizing w with
  | finish result => rfl
  | ask move next ih =>
    cases move with
    | call request =>
      unfold play
      rw [World.call_view sees]
      rcases w.call fine request with ⟨answer | answer, after⟩
      · rfl
      · exact ih answer after
    | grace container period =>
      unfold play
      rw [World.now_map, World.race_view sees]
      exact ih () _

/-- **Tearing down with a finer client.** -/
theorem run_view (sees : fine.View coarse view) (token : Token) (service : String) (w : World τ) :
    run coarse token service (w.map view) =
      Prod.map id (World.map view) (run fine token service w) :=
  play_view sees token (dialogue service) w

end View

variable {client : Client σ} {token : Token} {fired : Prop}

/-- The logs that a play can leave, with its result if it has one. A grace wait is skipped only
when the token fires. -/
inductive Logs (fired : Prop) :
    Dialogue Move Move.Answer α → List Call.Entry → Option α → Prop where
  | finished (result : α) : Logs fired (.finish result) [] (some result)
  | silent {request : Call} {next : request.Answer → Dialogue Move Move.Answer α} :
      Logs fired (.ask (.call request) next) [⟨request, none⟩] none
  | answered {request : Call} {next : request.Answer → Dialogue Move Move.Answer α}
      {log : List Call.Entry} {result : Option α} (answer : request.Answer)
      (rest : Logs fired (next answer) log result) :
      Logs fired (.ask (.call request) next) (⟨request, some answer⟩ :: log) result
  | awaited {container : String} {period : Duration} {next : Unit → Dialogue Move Move.Answer α}
      {log : List Call.Entry} {result : Option α}
      (reply : Option (Call.waitContainerRemoved container).Answer)
      (rest : Logs fired (next ()) log result) :
      Logs fired (.ask (.grace container period) next)
        (⟨.waitContainerRemoved container, reply⟩ :: log) result
  | skipped {container : String} {period : Duration} {next : Unit → Dialogue Move Move.Answer α}
      {log : List Call.Entry} {result : Option α} (fires : fired)
      (rest : Logs fired (next ()) log result) :
      Logs fired (.ask (.grace container period) next) log result

/-- A call that waits for a container is made only while the token has not fired. -/
abbrev Unhurried (token : Token) (before after : World σ) : Prop :=
  World.Grows
    (fun time call => call.operation = .waitContainerRemoved → token.hasFired time = false)
    before after

/-- The moves of a teardown, whose calls wait for no container. -/
inductive Move.Tears (id : String) : Move → Prop where
  | inspect : Tears id (.call (.inspectService id))
  | list : Tears id (.call (.listTasks (.all id)))
  | remove : Tears id (.call (.removeService id))
  | reap {move : Move} (reaps : move.Reaps) : Tears id move

/-- Removing and reaping make no calls but these. -/
theorem removal_asks (id : String) (grace : Duration) (containers : List String) :
    (removal id grace containers).Asks (Move.Tears id) := by
  have reaping (report : TeardownReport) :
      (reap grace containers report).Asks (Move.Tears id) :=
    (reap_asks grace containers report).imp fun _ => .reap
  refine ⟨.remove, ?_⟩
  intro removed
  cases removed with
  | ok done => exact reaping _
  | error error =>
    dsimp only
    split
    · exact reaping _
    · trivial

theorem dialogue_asks (id : String) : (dialogue id).Asks (Move.Tears id) := by
  refine ⟨.inspect, ?_⟩
  intro inspected
  cases inspected with
  | error error => trivial
  | ok service =>
    dsimp only
    split
    · exact removal_asks id .zero []
    · next grace _ =>
      refine ⟨.list, ?_⟩
      intro listed
      cases listed with
      | error error => trivial
      | ok tasks => exact removal_asks id grace (liveContainers tasks)

/-- Each of its steps is unhurried: only a wait for a container heeds the token. -/
theorem unhurried_law (client : Client σ) (token : Token) (id : String) :
    MoveLaw client token (Move.Tears id) (Unhurried token) where
  refl := .refl
  trans := .trans
  call w tears := by
    apply World.grows_call
    intro waits
    cases tears with
    | reap reaps => cases reaps; cases waits
    | _ => cases waits
  grace deadline w _ := World.grows_race client deadline fun unfired _ => unfired

theorem run_unhurried (client : Client σ) (token : Token) (id : String) (w : World σ) :
    Unhurried token w (run client token id w).2 :=
  play_upholds (unhurried_law client token id) (dialogue_asks id) w

/-- A play does not turn back the clock. -/
theorem now_le_play (client : Client σ) (token : Token) (dialogue : Dialogue Move Move.Answer α)
    (w : World σ) : w.now ≤ (play client token dialogue w).2.now := by
  have moves : MoveLaw client token (fun _ => True) fun before after => before.now ≤ after.now :=
    { refl := fun _ => Nat.le_refl _
      trans := Nat.le_trans
      call := fun _ _ => Nat.le_add_right _ _
      grace := fun deadline w _ => World.now_le_race client deadline token _ w }
  exact play_upholds moves dialogue.asks_any w

/-- **What a play logs.** -/
theorem play_logs {dialogue : Dialogue Move Move.Answer α}
    {w after : World (σ × List Call.Entry)} {result : Option α}
    (played : play client.logged token dialogue w = (result, after)) :
    ∃ log, w.Logs after log ∧ Logs (token.hasFired after.now = true) dialogue log result := by
  induction dialogue generalizing w with
  | finish result =>
    cases played
    exact ⟨[], .refl _, .finished result⟩
  | ask move next ih =>
    cases move with
    | call request =>
      unfold play at played
      split at played
      · next answer middle called =>
        obtain ⟨log, later, rest⟩ := ih answer played
        exact ⟨_, (World.call_logged called).trans later, .answered answer rest⟩
      · next middle called =>
        cases played
        exact ⟨_, World.call_logged called, .silent⟩
    | grace container period =>
      unfold play at played
      rcases raced : w.race client.logged (w.now + period.ticks) token
        (.waitContainerRemoved container) with ⟨reply, middle⟩
      rw [raced] at played
      obtain ⟨log, later, rest⟩ := ih () played
      have passed := now_le_play client.logged token (next ()) middle
      rw [played] at passed
      -- No time passes where a wait is skipped, but the log is to speak of the end of the play.
      rcases World.race_logged raced with ⟨fired, _, rfl⟩ | ⟨_, logs⟩
      · exact ⟨log, later, .skipped (Token.hasFired_mono fired passed) rest⟩
      · exact ⟨_, logs.trans later, .awaited _ rest⟩

end Teardown

end ReplicaWatch
