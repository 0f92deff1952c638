import ReplicaWatch.Proofs.Clock.Growth
import ReplicaWatch.Proofs.Clock.Recording

/-! # Logging a client

Where a record holds the answers that were given, a log holds the calls that were made, each with
the answer that its caller got, if it got one (`Client.logged`). Nobody who makes calls can tell a
logged client from the client. A race logs its call unless the token has fired already
(`World.race_logged`), and a dialogue that is not finished has logged the conversation up to the
call that it was given up at (`Dialogue.race_logged`).
-/

namespace ReplicaWatch

variable {σ α : Type} {client : Client σ} {token : Token}

/-- A call and the answer that its caller got, if it got one. -/
abbrev Call.Entry : Type := (call : Call) × Option call.Answer

/-- The call was answered, and not with an error. -/
def Call.Entry.Succeeded (entry : Call.Entry) : Prop := ∃ success, entry.2 = some (.ok success)

/-- What a race that was finished came to. -/
def Raced.result? : Raced α → Option α
  | .finished result => some result
  | .expired => none
  | .cancelled => none

/-- A client that keeps a log of its calls, the latest one last. -/
def Client.logged (client : Client σ) : Client (σ × List Call.Entry) where
  travel call state :=
    let (time, after) := client.travel call state.1
    (time, after, state.2 ++ [⟨call, none⟩])
  answer call state :=
    match client.answer call state.1 with
    | (some reply, after) => (some reply, after, state.2.dropLast ++ [⟨call, some reply⟩])
    | (none, after) => (none, after, state.2)

/-- A log can be overlooked. -/
theorem Client.logged_view (client : Client σ) : client.logged.View client Prod.fst where
  travel _ _ := rfl
  answer call state := by
    unfold logged
    dsimp only
    rcases client.answer call state.1 with ⟨reply | reply, after⟩ <;> rfl

namespace World

/-- The world with a log of the calls so far. -/
def logged (w : World σ) (log : List Call.Entry) : World (σ × List Call.Entry) :=
  ⟨w.now, (w.state, log), w.journal⟩

theorem map_logged (w : World σ) (log : List Call.Entry) : (w.logged log).map Prod.fst = w := rfl

/-- Between two worlds just these entries were logged, for just the calls that were made. -/
structure Logs (before after : World (σ × List Call.Entry)) (entries : List Call.Entry) : Prop where
  log : after.state.2 = before.state.2 ++ entries
  calls : after.calls.map Prod.snd = before.calls.map Prod.snd ++ entries.map Sigma.fst

namespace Logs

variable {first second third before after w : World (σ × List Call.Entry)}
  {entries others : List Call.Entry}

theorem refl (w : World (σ × List Call.Entry)) : Logs w w [] :=
  ⟨(List.append_nil _).symm, (List.append_nil _).symm⟩

/-- Logs of two stretches, one behind the other, are the log of both. -/
theorem trans (former : Logs first second entries) (latter : Logs second third others) :
    Logs first third (entries ++ others) where
  log := by rw [latter.log, former.log, List.append_assoc]
  calls := by rw [latter.calls, former.calls, List.map_append, List.append_assoc]

/-- What is neither logged nor written into the journal as a call makes no difference. -/
theorem congr {other : World (σ × List Call.Entry)} (logs : Logs before after entries)
    (state : other.state = after.state) (calls : other.calls = after.calls) :
    Logs before other entries :=
  ⟨by rw [state, logs.log], by rw [calls, logs.calls]⟩

/-- A call is logged with what it was answered. -/
theorem called {entry : Call.Entry} (log : after.state.2 = w.state.2 ++ [entry])
    (journal : after.journal = .called w.now entry.1 :: w.journal) : Logs w after [entry] := by
  refine ⟨log, ?_⟩
  have same : after.calls = World.calls ⟨w.now, w.state, .called w.now entry.1 :: w.journal⟩ :=
    calls_congr journal
  rw [same, calls_called, List.map_append]
  rfl

/-- A log that was empty holds what was logged since. -/
theorem logged_eq {before : World σ} (logs : Logs (before.logged []) after entries) :
    (after.map Prod.fst).logged entries = after := by
  rw [← show after.state.2 = entries from logs.log]
  rfl

/-- The log of a client tells the calls that were made to it. -/
theorem callsUntil_eq {allowed : Nat → Call → Prop} {before after : World σ}
    {log extended : List Call.Entry}
    (logs : Logs (before.logged log) (after.logged extended) entries)
    (grows : Grows allowed before after) :
    (before.callsUntil after).map Prod.snd = entries.map Sigma.fst := by
  have calls : after.calls.map Prod.snd = before.calls.map Prod.snd ++ entries.map Sigma.fst :=
    logs.calls
  rw [grows.calls_eq, List.map_append] at calls
  exact List.append_cancel_left calls

end Logs

/-- Waiting for an answer that does not come logs nothing. -/
private theorem outwait_state (token : Token) (deadline : Nat) (w : World σ) :
    (outwait (α := α) token deadline w).1.result? = none ∧
      (outwait (α := α) token deadline w).2.state = w.state ∧
      (outwait (α := α) token deadline w).2.journal = w.journal := by
  unfold outwait
  split <;> exact ⟨rfl, rfl, rfl⟩

/-- **What a race logs.** -/
theorem race_logged {deadline : Nat} {call : Call} {w after : World (σ × List Call.Entry)}
    {raced : Raced call.Answer}
    (race : w.race client.logged deadline token call = (raced, after)) :
    token.hasFired w.now = true ∧ raced = .cancelled ∧ after = w ∨
      token.hasFired w.now = false ∧ Logs w after [⟨call, raced.result?⟩] := by
  unfold World.race at race
  by_cases fired : token.hasFired w.now = true
  · rw [if_pos fired] at race
    cases race
    exact .inl ⟨fired, rfl, rfl⟩
  · right
    refine ⟨by simpa using fired, ?_⟩
    rw [if_neg fired, send_eq] at race
    dsimp only at race
    by_cases lost : deadline < w.now + (client.logged.travel call w.state).1
    · rw [if_pos lost] at race
      obtain ⟨unfinished, state, journal⟩ := outwait_state (α := call.Answer) token deadline
        ⟨w.now, (client.logged.travel call w.state).2, .called w.now call :: w.journal⟩
      rw [race] at unfinished state journal
      rw [show raced.result? = none from unfinished]
      exact .called (congrArg Prod.snd state) journal
    · rw [if_neg lost] at race
      split at race
      · cases race
        exact .called rfl rfl
      · simp only [Client.logged] at race
        rcases replied : client.answer call (client.travel call w.state.1).2 with
          ⟨reply | reply, state⟩
        · simp only [replied] at race
          obtain ⟨unfinished, state, journal⟩ := outwait_state (α := call.Answer) token deadline
            ⟨w.now + (client.travel call w.state.1).1, (state, w.state.2 ++ [⟨call, none⟩]),
              .called w.now call :: w.journal⟩
          rw [race] at unfinished state journal
          rw [show raced.result? = none from unfinished]
          exact .called (congrArg Prod.snd state) journal
        · simp only [replied] at race
          cases race
          exact .called (by simp [Raced.result?]) rfl

/-- A call that may take its time is logged, whether or not it is answered. -/
theorem call_logged {call : Call} {w after : World (σ × List Call.Entry)}
    {answer : Option call.Answer} (called : w.call client.logged call = (answer, after)) :
    Logs w after [⟨call, answer⟩] := by
  unfold World.call at called
  simp only [send_eq, Client.logged] at called
  rcases replied : client.answer call (client.travel call w.state.1).2 with ⟨reply | reply, state⟩
  · simp only [replied] at called
    cases called
    exact .called rfl rfl
  · simp only [replied] at called
    cases called
    exact .called (by simp) rfl

end World

namespace Dialogue

/-- The logs that a dialogue can leave, with its result if it was finished. Every question but the
last one was answered before the next one was asked. -/
inductive Logs : Dialogue Call Call.Answer α → List Call.Entry → Option α → Prop where
  | finished (result : α) : Logs (.finish result) [] (some result)
  | unasked {call : Call} {next : call.Answer → Dialogue Call Call.Answer α} :
      Logs (.ask call next) [] none
  | unanswered {call : Call} {next : call.Answer → Dialogue Call Call.Answer α} :
      Logs (.ask call next) [⟨call, none⟩] none
  | answered {call : Call} {next : call.Answer → Dialogue Call Call.Answer α}
      {entries : List Call.Entry} {result : Option α} (answer : call.Answer)
      (rest : Logs (next answer) entries result) :
      Logs (.ask call next) (⟨call, some answer⟩ :: entries) result

/-- **What a dialogue logs.** -/
theorem race_logged {deadline : Nat} {dialogue : Dialogue Call Call.Answer α}
    {w after : World (σ × List Call.Entry)} {raced : Raced α}
    (race : dialogue.race client.logged deadline token w = (raced, after)) :
    ∃ entries, w.Logs after entries ∧ dialogue.Logs entries raced.result? := by
  induction dialogue generalizing w with
  | finish result =>
    cases race
    exact ⟨[], .refl _, .finished result⟩
  | ask call next ih =>
    unfold Dialogue.race at race
    split at race
    · next answer middle asked =>
      rcases World.race_logged asked with ⟨_, cancelled, _⟩ | ⟨_, logs⟩
      · cases cancelled
      · obtain ⟨entries, later, rest⟩ := ih answer race
        exact ⟨⟨call, some answer⟩ :: entries, logs.trans later, .answered answer rest⟩
    · next middle asked =>
      cases race
      rcases World.race_logged asked with ⟨_, cancelled, _⟩ | ⟨_, logs⟩
      · cases cancelled
      · exact ⟨[⟨call, none⟩], logs, .unanswered⟩
    · next middle asked =>
      cases race
      rcases World.race_logged asked with ⟨_, _, rfl⟩ | ⟨_, logs⟩
      · exact ⟨[], .refl _, .unasked⟩
      · exact ⟨[⟨call, none⟩], logs, .unanswered⟩

end Dialogue

end ReplicaWatch
