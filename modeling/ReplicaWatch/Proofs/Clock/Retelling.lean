import ReplicaWatch.Proofs.Clock.Race

/-! # Retelling answers

What a client answers can be changed on the way to whoever made the call (`Client.retold`).
A dialogue that is held with such a client goes as the dialogue that changes each answer
itself before it goes on (`Dialogue.retold`) goes with the client as it is: it ends in the same
way, at the same time, after the same calls (`Dialogue.race_retold`). To compare two clients
that differ in what they say, it is so enough to compare two dialogues.
-/

namespace ReplicaWatch

variable {σ α β : Type}

/-- A way to change answers. -/
abbrev Call.Retelling : Type := (call : Call) → call.Answer → call.Answer

variable {retell : Call.Retelling}

/-- A client that changes each answer before it gives it. -/
def Client.retold (client : Client σ) (retell : Call.Retelling) : Client σ where
  travel := client.travel
  answer call state := Prod.map (Option.map (retell call)) id (client.answer call state)

theorem Client.answer_retold (client : Client σ) (call : Call) (state : σ) :
    (client.retold retell).answer call state =
      Prod.map (Option.map (retell call)) id (client.answer call state) := rfl

/-- A dialogue that changes each answer before it goes on with it. -/
def Dialogue.retold (retell : Call.Retelling) :
    Dialogue Call Call.Answer α → Dialogue Call Call.Answer α
  | .finish result => .finish result
  | .ask call next => .ask call fun answer => (next (retell call answer)).retold retell

/-- The end of a race with its result changed. -/
def Raced.map (change : α → β) : Raced α → Raced β
  | .finished result => .finished (change result)
  | .expired => .expired
  | .cancelled => .cancelled

namespace World

theorem outwait_map (change : α → β) (token : Token) (deadline : Nat) (w : World σ) :
    outwait token deadline w = Prod.map (Raced.map change) id (outwait token deadline w) := by
  unfold outwait
  split <;> rfl

/-- Whether an answer comes in time does not depend on what it says. -/
theorem race_retold (client : Client σ) (deadline : Nat) (token : Token) (call : Call)
    (w : World σ) :
    w.race (client.retold retell) deadline token call =
      Prod.map (Raced.map (retell call)) id (w.race client deadline token call) := by
  unfold race
  split
  · rfl
  · rw [show w.send (client.retold retell) call = w.send client call from rfl]
    rcases w.send client call with ⟨arrival, sent⟩
    dsimp only
    split
    · exact outwait_map (retell call) token deadline sent
    · split
      · rfl
      · rw [Client.answer_retold]
        rcases client.answer call sent.state with ⟨reply | reply, after⟩
        · exact outwait_map (retell call) token deadline _
        · rfl

end World

/-- **Retelling on either side.** A dialogue goes with a client that changes its answers as the
dialogue that changes them goes with the client. -/
theorem Dialogue.race_retold (client : Client σ) (deadline : Nat) (token : Token)
    (dialogue : Dialogue Call Call.Answer α) (w : World σ) :
    dialogue.race (client.retold retell) deadline token w =
      (dialogue.retold retell).race client deadline token w := by
  induction dialogue generalizing w with
  | finish result => rfl
  | ask call next ih =>
    unfold Dialogue.retold Dialogue.race
    rw [World.race_retold]
    rcases w.race client deadline token call with ⟨answer | _ | _, after⟩
    · exact ih (retell call answer) after
    · rfl
    · rfl

end ReplicaWatch
