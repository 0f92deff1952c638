import ReplicaWatch.Proofs.Wait.Turn

/-! # What a wait fails with

The errors of a wait are few, and none of them wraps that of a teardown (`Wait.Fails`). All that
name a service or a timeout name those of the wait (`Wait.run_fails`). A poll can only fail with
a call or for want of a number of replicas (`Session.error_of_ends`).
-/

namespace ReplicaWatch

variable {σ : Type}

namespace Session

variable {mode : ConvergenceMode} {id : String} {timeout : Duration} {session after : Session}
  {exchanges : List Call.Exchange}

/-- The ways in which a poll can fail. -/
theorem error_of_ends {error : ConvergenceError}
    (ends : PollEnds mode id timeout session exchanges (.error error, after)) :
    (∃ source, error = .cluster id timeout source) ∨ error = .noReplicaCount session.service := by
  generalize failed : (Except.error error, after) = result at ends
  cases ends with
  | uninspected source => cases failed; exact .inl ⟨source, rfl⟩
  | tasksUnlisted source => cases failed; exact .inl ⟨source, rfl⟩
  | nodesUnlisted _ source => cases failed; exact .inl ⟨source, rfl⟩
  | completed => cases failed
  | failed => cases failed
  | counted => exact .inr (count_error failed.symm)

end Session

namespace Wait

variable {wait : Wait} {client : Client σ} {token : Token} {started : Nat}

/-- The errors that a wait can end with. -/
inductive Fails (wait : Wait) : ConvergenceError → Prop where
  | timedOut : Fails wait wait.timedOut
  | cancelled : Fails wait wait.cancelled
  | rolledOut (failure : RolloutFailure) : Fails wait (wait.rolledOut failure)
  | uncounted : Fails wait (.noReplicaCount wait.service)
  | cluster (source : ClusterError) :
      Fails wait (.cluster wait.service wait.config.timeout source)
  | invalid (fault : ConfigFault) : Fails wait (.invalidConfig fault)

/-- The failure of a wait is its own. -/
theorem Fails.primary_eq {error : ConvergenceError} (fails : wait.Fails error) :
    error.primary = error := by
  cases fails with
  | rolledOut failure => cases failure <;> rfl
  | _ => rfl

/-- Part of a wait has gone on with the service of the wait, or ended as a wait can. -/
def Turn.Fails (wait : Wait) : Turn σ → Prop
  | .ended (result, _) => ∀ error, result = .error error → wait.Fails error
  | .again standing => standing.session.service = wait.service

/-- A wait that ends with one of its failures ends as a wait can. -/
theorem Turn.fails_of_error {error : ConvergenceError} {after : World σ}
    (fails : wait.Fails error) : (Turn.ended (.error error, after)).Fails wait := by
  rintro _ ⟨⟩
  exact fails

/-- A turn fails only in the ways in which its wait can. -/
theorem Fails.turn (standing : Standing σ) (before : (Turn.again standing).Fails wait) :
    (wait.turn client token started standing).Fails wait := by
  have own : standing.session.service = wait.service := before
  have ends := turn_ends wait client token started standing
  generalize wait.turn client token started standing = turn at ends ⊢
  cases ends with
  | late => exact Turn.fails_of_error .timedOut
  | cancelled => exact Turn.fails_of_error .cancelled
  | expired => exact Turn.fails_of_error .timedOut
  | refused _ poll =>
    obtain ⟨exchanges, answered⟩ := Dialogue.race_answered poll
    rcases Session.error_of_ends (Session.poll_ends answered) with ⟨source, rfl⟩ | rfl
    · exact Turn.fails_of_error (.cluster source)
    · rw [own]
      exact Turn.fails_of_error .uncounted
  | converged => exact nofun
  | rolledOut => exact Turn.fails_of_error (.rolledOut _)
  | interrupted => exact Turn.fails_of_error .cancelled
  | pending _ poll =>
    obtain ⟨exchanges, answered⟩ := Dialogue.race_answered poll
    exact (Session.service_of_ends (Session.poll_ends answered)).trans own

theorem opening_fails (wait : Wait) (client : Client σ) (token : Token) (w : World σ) :
    (wait.opening client token w).Fails wait := by
  have ends := opening_ends wait client token w
  generalize wait.opening client token w = turn at ends ⊢
  cases ends with
  | cancelled => exact Turn.fails_of_error .cancelled
  | expired => exact Turn.fails_of_error .timedOut
  | refused => exact Turn.fails_of_error (.cluster _)
  | uncounted => exact Turn.fails_of_error .uncounted
  | interrupted => exact Turn.fails_of_error .cancelled
  | opened => exact (rfl : (Session.start wait.service).service = wait.service)

/-- **What a wait fails with.** -/
theorem run_fails {w after : World σ} {error : ConvergenceError}
    (failed : wait.run client token w = (.error error, after)) : wait.Fails error := by
  cases checked : wait.config.fault? with
  | some fault =>
    rw [run_of_fault checked] at failed
    cases failed
    exact .invalid fault
  | none =>
    have valid := ConvergenceConfig.fault?_eq_none_iff.mp checked
    obtain ⟨turns, unfolds⟩ := run_unfolds valid client token w
    have fails := unfolds.invariant Fails.turn (opening_fails wait client token w)
    rw [failed] at fails
    exact fails error rfl

end Wait

end ReplicaWatch
