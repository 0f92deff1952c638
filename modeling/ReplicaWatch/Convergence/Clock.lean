import ReplicaWatch.Cluster.Call
import ReplicaWatch.Convergence.Dialogue

/-! # Calls on a clock

Time is a number of milliseconds. It stands still while code runs and passes only while
a caller is suspended: during a pause, or between the making of a call and its answer.
A `Client` says how long each call takes and what it answers, if it ever does. A
bounded call is a race of the answer with a deadline and with the caller's token;
cancellation wins over an answer, and an answer that comes at the deadline wins over the
deadline (`World.race`).
-/

namespace ReplicaWatch

/-- Answers calls, with a state of its own. -/
structure Client (σ : Type) where
  /-- The milliseconds that a call is under way before it reaches the cluster. -/
  travel : Call → σ → Nat × σ
  /-- The answer of a call that has reached the cluster; `none` if it never comes. -/
  answer : (call : Call) → σ → Option call.Answer × σ

/-- The means by which a caller cancels what it asked for. -/
structure Token where
  /-- The time at which the token fires, if it does. -/
  firesAt : Option Nat
  deriving DecidableEq

namespace Token

/-- A token that never fires. -/
def never : Token := ⟨none⟩

/-- Whether the token has fired by some time. -/
def hasFired (token : Token) (now : Nat) : Bool :=
  match token.firesAt with
  | none => false
  | some time => decide (time ≤ now)

/-- The time at which a token that has not fired yet interrupts a suspension that ends
at `wake`. -/
def interruption? (token : Token) (wake : Nat) : Option Nat :=
  token.firesAt.filter fun time => decide (time ≤ wake)

end Token

/-- What happened on the clock. -/
inductive Event where
  /-- A call was made. -/
  | called (time : Nat) (call : Call)
  /-- A pause of some length began. -/
  | paused (time : Nat) (length : Duration)
  deriving DecidableEq

/-- The time, the client's state, and what happened so far. -/
structure World (σ : Type) where
  now : Nat
  state : σ
  /-- What happened so far, the latest event first. -/
  journal : List Event

/-- How a race ends. -/
inductive Raced (α : Type) where
  | finished (result : α)
  /-- The deadline came first. -/
  | expired
  /-- The token fired first. -/
  | cancelled
  deriving DecidableEq

namespace World

variable {σ α : Type}

/-- The calls that were made, with the times at which they were. -/
def calls (w : World σ) : List (Nat × Call) :=
  w.journal.reverse.filterMap fun
    | .called time call => some (time, call)
    | .paused _ _ => none

/-- The world in which a call has just been made, and the time at which it arrives. -/
def send (client : Client σ) (call : Call) (w : World σ) : Nat × World σ :=
  let (travel, state) := client.travel call w.state
  (w.now + travel, { w with state, journal := .called w.now call :: w.journal })

/-- The world at a later time. -/
def movedTo (w : World σ) (time : Nat) : World σ := { w with now := time }

/-- Waits for an answer that does not come. -/
def outwait (token : Token) (deadline : Nat) (w : World σ) : Raced α × World σ :=
  match token.interruption? deadline with
  | some time => (.cancelled, w.movedTo time)
  | none => (.expired, w.movedTo (max w.now deadline))

/-- Makes a call that races a deadline and a token. When the token has fired already, no
call is made. A call that is abandoned before it arrives does not reach the cluster. -/
def race (client : Client σ) (deadline : Nat) (token : Token) (call : Call) (w : World σ) :
    Raced call.Answer × World σ :=
  if token.hasFired w.now then
    (.cancelled, w)
  else
    let (arrival, sent) := w.send client call
    if deadline < arrival then
      sent.outwait token deadline
    else
      match token.interruption? arrival with
      | some time => (.cancelled, sent.movedTo time)
      | none =>
        match client.answer call sent.state with
        | (some answer, state) => (.finished answer, { sent with now := arrival, state })
        | (none, state) => { sent with now := arrival, state }.outwait token deadline

/-- Makes a call and waits for its answer without a bound. -/
def call (client : Client σ) (call : Call) (w : World σ) : Option call.Answer × World σ :=
  let (arrival, sent) := w.send client call
  let (answer, state) := client.answer call sent.state
  (answer, { sent with now := arrival, state })

/-- Sleeps for some length of time. Answers whether it was not interrupted; when the
token has fired already, there is no sleep. -/
def pause (token : Token) (length : Duration) (w : World σ) : Bool × World σ :=
  if token.hasFired w.now then
    (false, w)
  else
    let begun : World σ := { w with journal := .paused w.now length :: w.journal }
    match token.interruption? (w.now + length.ticks) with
    | some time => (false, begun.movedTo time)
    | none => (true, begun.movedTo (w.now + length.ticks))

theorem now_lt_of_interruption? {token : Token} {now wake time : Nat}
    (unfired : token.hasFired now = false) (fires : token.interruption? wake = some time) :
    now < time := by
  obtain ⟨fires, _⟩ := Option.filter_eq_some_iff.mp fires
  simp only [Token.hasFired, fires, decide_eq_false_iff_not] at unfired
  omega

theorem now_le_outwait (token : Token) (deadline : Nat) {now : Nat} (w : World σ)
    (unfired : token.hasFired now = false) (later : now ≤ w.now) :
    now ≤ (outwait (α := α) token deadline w).2.now := by
  unfold outwait
  split
  · next fires => exact Nat.le_of_lt (now_lt_of_interruption? unfired fires)
  · exact Nat.le_trans later (Nat.le_max_left _ _)

/-- A race does not turn back the clock. -/
theorem now_le_race (client : Client σ) (deadline : Nat) (token : Token) (call : Call)
    (w : World σ) : w.now ≤ (w.race client deadline token call).2.now := by
  unfold race
  split
  · exact Nat.le_refl _
  · next unfired =>
    have unfired : token.hasFired w.now = false := by simpa using unfired
    have sent : w.now ≤ (w.send client call).1 := Nat.le_add_right _ _
    dsimp only
    split
    · exact now_le_outwait token deadline _ unfired (Nat.le_refl _)
    · split
      · next fires => exact Nat.le_of_lt (now_lt_of_interruption? unfired fires)
      · split
        · exact sent
        · exact now_le_outwait token deadline _ unfired sent

end World

namespace Dialogue

variable {σ α : Type}

/-- Holds a dialogue whose questions are calls; the whole of it races a deadline and a
token. -/
def race (client : Client σ) (deadline : Nat) (token : Token) :
    Dialogue Call Call.Answer α → World σ → Raced α × World σ
  | .finish result, w => (.finished result, w)
  | .ask call next, w =>
    match w.race client deadline token call with
    | (.finished answer, w) => (next answer).race client deadline token w
    | (.expired, w) => (.expired, w)
    | (.cancelled, w) => (.cancelled, w)

/-- Holds a dialogue whose questions are calls, without a bound. There is no result if
some call is never answered. -/
def hold (client : Client σ) :
    Dialogue Call Call.Answer α → World σ → Option α × World σ
  | .finish result, w => (some result, w)
  | .ask call next, w =>
    match w.call client call with
    | (some answer, w) => (next answer).hold client w
    | (none, w) => (none, w)

/-- A dialogue does not turn back the clock. -/
theorem now_le_race (client : Client σ) (deadline : Nat) (token : Token)
    (dialogue : Dialogue Call Call.Answer α) (w : World σ) :
    w.now ≤ (dialogue.race client deadline token w).2.now := by
  induction dialogue generalizing w with
  | finish result => exact Nat.le_refl _
  | ask call next ih =>
    have step := World.now_le_race client deadline token call w
    unfold race
    split
    · next answer w' raced =>
      rw [raced] at step
      exact Nat.le_trans step (ih answer w')
    · next w' raced => rwa [raced] at step
    · next w' raced => rwa [raced] at step

end Dialogue

end ReplicaWatch
