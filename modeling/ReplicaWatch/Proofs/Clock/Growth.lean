import ReplicaWatch.Proofs.Clock.Journal

/-! # What a run adds to a world

The clock is not turned back and no call is taken out of the journal. So the calls that were
made between two worlds of one run can be spoken of (`World.callsUntil`), and every one of them
falls between the two, at a time at which it was allowed (`World.Grows`). A race makes its call
only while the token has not fired (`World.grows_law`).
-/

namespace ReplicaWatch

variable {σ : Type}

/-- A token that has fired stays so. -/
theorem Token.hasFired_mono {token : Token} {now later : Nat} (fired : token.hasFired now = true)
    (after : now ≤ later) : token.hasFired later = true := by
  unfold hasFired at fired ⊢
  cases fires : token.firesAt with
  | none => simp [fires] at fired
  | some time =>
    simp only [fires, decide_eq_true_eq] at fired ⊢
    exact Nat.le_trans fired after

namespace World

variable {allowed : Nat → Call → Prop} {first second third before after : World σ}

/-- The calls that were made between two worlds of one run, with the times at which they
were. -/
def callsUntil (before after : World σ) : List (Nat × Call) :=
  after.calls.drop before.calls.length

/-- The calls in between are what the later world has behind the calls of the earlier one. -/
theorem callsUntil_eq {made : List (Nat × Call)} (calls : after.calls = before.calls ++ made) :
    before.callsUntil after = made := by
  rw [callsUntil, calls, List.drop_left]

theorem callsUntil_self (w : World σ) : w.callsUntil w = [] := List.drop_length

/-- **Growth.** `after` can come of `before` when every call in between was allowed at the time
at which it was made. -/
structure Grows (allowed : Nat → Call → Prop) (before after : World σ) : Prop where
  later : before.now ≤ after.now
  made : ∃ made, after.calls = before.calls ++ made ∧
    ∀ call ∈ made, before.now ≤ call.1 ∧ call.1 ≤ after.now ∧ allowed call.1 call.2

namespace Grows

theorem refl (w : World σ) : Grows allowed w w :=
  ⟨Nat.le_refl _, [], (List.append_nil _).symm, nofun⟩

/-- The calls of the later world are those of the earlier one, and behind them those in between. -/
theorem calls_eq (grows : Grows allowed before after) :
    after.calls = before.calls ++ before.callsUntil after := by
  obtain ⟨made, calls, -⟩ := grows.made
  rw [callsUntil_eq calls, calls]

/-- Each call in between was made at a time in between, and was allowed at that time. -/
theorem mem_callsUntil (grows : Grows allowed before after) {call : Nat × Call}
    (member : call ∈ before.callsUntil after) :
    before.now ≤ call.1 ∧ call.1 ≤ after.now ∧ allowed call.1 call.2 := by
  obtain ⟨made, calls, within⟩ := grows.made
  rw [callsUntil_eq calls] at member
  exact within call member

/-- The calls of two stretches of a run, one behind the other, are the calls of both. -/
theorem callsUntil_append {other : Nat → Call → Prop} (former : Grows allowed first second)
    (latter : Grows other second third) :
    first.callsUntil third = first.callsUntil second ++ second.callsUntil third := by
  apply callsUntil_eq
  rw [latter.calls_eq, former.calls_eq, List.append_assoc]

/-- Growth by two stretches is growth, when the same calls are allowed in both. -/
theorem trans (former : Grows allowed first second) (latter : Grows allowed second third) :
    Grows allowed first third where
  later := Nat.le_trans former.later latter.later
  made := by
    refine ⟨first.callsUntil second ++ second.callsUntil third, ?_, ?_⟩
    · rw [← List.append_assoc, ← former.calls_eq, ← latter.calls_eq]
    · intro call member
      rcases List.mem_append.mp member with early | late
      · obtain ⟨begun, ended, fits⟩ := former.mem_callsUntil early
        exact ⟨begun, Nat.le_trans ended latter.later, fits⟩
      · obtain ⟨begun, ended, fits⟩ := latter.mem_callsUntil late
        exact ⟨Nat.le_trans former.later begun, ended, fits⟩

/-- A call that is allowed when it is made is growth. -/
theorem called {now : Nat} {state : σ} {call : Call} {w : World σ} (later : w.now ≤ now)
    (fits : allowed w.now call) :
    Grows allowed w ⟨now, state, .called w.now call :: w.journal⟩ where
  later := later
  made := by
    refine ⟨[(w.now, call)], calls_called _ _ _ _ _, ?_⟩
    intro made member
    rw [List.mem_singleton.mp member]
    exact ⟨Nat.le_refl _, later, fits⟩

/-- A pause makes no call. -/
theorem paused {now : Nat} {length : Duration} {w : World σ} (later : w.now ≤ now) :
    Grows allowed w ⟨now, w.state, .paused w.now length :: w.journal⟩ :=
  ⟨later, [], by rw [calls_paused, List.append_nil]; exact calls_congr rfl, nofun⟩

end Grows

/-- A race makes its call, if at all, while the token has not fired. -/
theorem grows_race (client : Client σ) (deadline : Nat) {token : Token} {call : Call} {w : World σ}
    (fits : token.hasFired w.now = false → allowed w.now call) :
    Grows allowed w (w.race client deadline token call).2 := by
  have ends := race_ends client deadline token call w
  generalize w.race client deadline token call = ended at ends ⊢
  cases ends with
  | fired => exact .refl w
  | interrupted unfired _ later => exact .called (Nat.le_of_lt later) (fits unfired)
  | expired unfired => exact .called (Nat.le_max_left _ _) (fits unfired)
  | answered unfired => exact .called (Nat.le_add_right _ _) (fits unfired)

/-- The token may end a pause early, but never moves the clock back. -/
theorem grows_pause (token : Token) (length : Duration) (w : World σ) :
    Grows allowed w (w.pause token length).2 := by
  have ends := pause_ends token length w
  generalize w.pause token length = ended at ends ⊢
  cases ends with
  | fired => exact .refl w
  | interrupted _ _ later => exact .paused (Nat.le_of_lt later)
  | slept => exact .paused (Nat.le_add_right _ _)

/-- Each step of a dialogue grows the world by calls that were made while the token had not fired,
so that a whole dialogue does too. -/
theorem grows_law (client : Client σ) (token : Token) (looks : Call → Prop) :
    StepLaw client token looks
      (Grows fun time call => token.hasFired time = false ∧ looks call) where
  refl := .refl
  trans := .trans
  race deadline _ _ fits := grows_race client deadline fun unfired => ⟨unfired, fits⟩
  pause length w := grows_pause token length w

/-- A call that may take its time is made at once. -/
theorem grows_call (client : Client σ) {call : Call} {w : World σ}
    (fits : allowed w.now call) : Grows allowed w (w.call client call).2 :=
  .called (Nat.le_add_right _ _) fits

end World

end ReplicaWatch
