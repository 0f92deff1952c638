import ReplicaWatch.Proofs.Clock.Race

/-! # Recording a client

Any client can be given a record of its answers (`Client.recorded`) without anyone who
makes calls being able to tell. That is a case of a more general fact: when the states of
one client can be viewed as those of another (`Client.View`), so can every race that is run
with it (`Dialogue.race_view`). A dialogue that is finished has put its exchanges on the
record, and nothing else (`Dialogue.race_recorded`).
-/

namespace ReplicaWatch

variable {σ τ α : Type}

/-- The world as it looks when the client's state is viewed in some way. -/
def World.map (view : τ → σ) (w : World τ) : World σ := ⟨w.now, view w.state, w.journal⟩

theorem World.now_map (view : τ → σ) (w : World τ) : (w.map view).now = w.now := rfl

/-- A way to view the states of one client as those of another. -/
structure Client.View (fine : Client τ) (coarse : Client σ) (view : τ → σ) : Prop where
  travel : ∀ call state,
    coarse.travel call (view state) = Prod.map id view (fine.travel call state)
  answer : ∀ call state,
    coarse.answer call (view state) = Prod.map id view (fine.answer call state)

variable {fine : Client τ} {coarse : Client σ} {view : τ → σ} {token : Token}

/-- Waiting for an answer that does not come asks nothing of the client. -/
theorem World.outwait_view (view : τ → σ) (token : Token) (deadline : Nat) (w : World τ) :
    outwait (α := α) token deadline (w.map view) =
      Prod.map id (World.map view) (outwait token deadline w) := by
  unfold outwait
  split <;> rfl

/-- A call is sent alike, and takes as long. -/
theorem World.send_view (sees : fine.View coarse view) (call : Call) (w : World τ) :
    (w.map view).send coarse call = Prod.map id (World.map view) (w.send fine call) := by
  rw [send_eq, send_eq, show (w.map view).state = view w.state from rfl, sees.travel]
  rfl

/-- A race ends alike, however the client's state is viewed. -/
theorem World.race_view (sees : fine.View coarse view) (deadline : Nat) (token : Token)
    (call : Call) (w : World τ) :
    (w.map view).race coarse deadline token call =
      Prod.map id (World.map view) (w.race fine deadline token call) := by
  unfold race
  by_cases fired : token.hasFired w.now = true
  · rw [if_pos fired, if_pos (show token.hasFired (w.map view).now = true from fired)]
    rfl
  · rw [if_neg fired, if_neg (show ¬token.hasFired (w.map view).now = true from fired),
      send_view sees]
    rcases w.send fine call with ⟨arrival, sent⟩
    dsimp only [Prod.map, id_eq]
    by_cases lost : deadline < arrival
    · rw [if_pos lost, if_pos lost]
      exact outwait_view view token deadline sent
    · rw [if_neg lost, if_neg lost]
      cases token.interruption? arrival with
      | some time => rfl
      | none =>
        have answer := sees.answer call sent.state
        rcases replied : fine.answer call sent.state with ⟨reply | reply, state⟩
        · rw [replied] at answer
          dsimp only [map] at answer ⊢
          rw [answer]
          exact outwait_view view token deadline ⟨arrival, state, sent.journal⟩
        · rw [replied] at answer
          dsimp only [map] at answer ⊢
          rw [answer]
          rfl

theorem World.call_view (sees : fine.View coarse view) (call : Call) (w : World τ) :
    (w.map view).call coarse call = Prod.map id (World.map view) (w.call fine call) := by
  rw [call_eq, call_eq, show (w.map view).state = view w.state from rfl, sees.travel]
  dsimp only [Prod.map]
  rw [sees.answer]
  rfl

theorem World.pause_view (view : τ → σ) (token : Token) (length : Duration) (w : World τ) :
    (w.map view).pause token length =
      Prod.map id (World.map view) (w.pause token length) := by
  unfold pause
  by_cases fired : token.hasFired w.now = true
  · rw [if_pos fired, if_pos (show token.hasFired (w.map view).now = true from fired)]
    rfl
  · rw [if_neg fired, if_neg (show ¬token.hasFired (w.map view).now = true from fired)]
    dsimp only [map, movedTo]
    generalize w.now + length.ticks = wake
    cases token.interruption? wake with
    | none => rfl
    | some time => rfl

/-- A whole dialogue is raced alike, by its calls one after another. -/
theorem Dialogue.race_view (sees : fine.View coarse view) (deadline : Nat) (token : Token)
    (dialogue : Dialogue Call Call.Answer α) (w : World τ) :
    dialogue.race coarse deadline token (w.map view) =
      Prod.map id (World.map view) (dialogue.race fine deadline token w) := by
  induction dialogue generalizing w with
  | finish result => rfl
  | ask call next ih =>
    unfold race
    rw [World.race_view sees]
    rcases w.race fine deadline token call with ⟨answer | _ | _, after⟩
    · exact ih answer after
    · rfl
    · rfl

/-- A client that keeps a record of its answers, the latest one last. -/
def Client.recorded (client : Client σ) : Client (σ × List Call.Exchange) where
  travel call state :=
    let (time, after) := client.travel call state.1
    (time, after, state.2)
  answer call state :=
    match client.answer call state.1 with
    | (some reply, after) => (some reply, after, state.2 ++ [⟨call, reply⟩])
    | (none, after) => (none, after, state.2)

/-- The world with a record of the answers so far. -/
def World.recorded (w : World σ) (record : List Call.Exchange) : World (σ × List Call.Exchange) :=
  ⟨w.now, (w.state, record), w.journal⟩

/-- A record can be overlooked. -/
theorem Client.recorded_view (client : Client σ) : client.recorded.View client Prod.fst where
  travel _ _ := rfl
  answer call state := by
    unfold recorded
    dsimp only
    rcases client.answer call state.1 with ⟨reply | reply, after⟩ <;> rfl

theorem World.map_recorded (w : World σ) (record : List Call.Exchange) :
    (w.recorded record).map Prod.fst = w := rfl

/-- A call that is answered in time puts its answer on the record. -/
theorem World.race_recorded {client : Client σ} {deadline : Nat} {call : Call}
    {w after : World (σ × List Call.Exchange)} {answer : call.Answer}
    (raced : w.race client.recorded deadline token call = (.finished answer, after)) :
    after.state.2 = w.state.2 ++ [⟨call, answer⟩] := by
  have ends := race_ends client.recorded deadline token call w
  rw [raced] at ends
  cases ends with
  | answered _ _ _ replied =>
    simp only [Client.recorded] at replied
    split at replied
    · cases replied; rfl
    · cases replied

/-- **The record of a dialogue.** A dialogue that is finished has put on the record the
conversation along it that led to its result. -/
theorem Dialogue.race_recorded {client : Client σ} {deadline : Nat}
    {dialogue : Dialogue Call Call.Answer α} {w after : World (σ × List Call.Exchange)} {result : α}
    (finished : dialogue.race client.recorded deadline token w = (.finished result, after)) :
    ∃ exchanges, after.state.2 = w.state.2 ++ exchanges ∧
      dialogue.Answered exchanges result := by
  induction dialogue generalizing w with
  | finish result =>
    cases finished
    exact ⟨[], (List.append_nil _).symm, .finish _⟩
  | ask call next ih =>
    unfold race at finished
    split at finished
    · next answer middle raced =>
      obtain ⟨exchanges, record, rest⟩ := ih answer finished
      refine ⟨⟨call, answer⟩ :: exchanges, ?_, .ask answer rest⟩
      rw [record, World.race_recorded raced, List.append_assoc]
      rfl
    · cases finished
    · cases finished

end ReplicaWatch
