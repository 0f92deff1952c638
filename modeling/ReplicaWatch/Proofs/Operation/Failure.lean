import ReplicaWatch.Convergence.Operation
import ReplicaWatch.Proofs.Teardown.Course
import ReplicaWatch.Proofs.Wait.Conduct
import ReplicaWatch.Proofs.Wait.Failure

/-! # What a creation answers

Waiting for a service that was just created is a wait, and behind a wait that failed one teardown
of the service. Whatever becomes of the teardown, the failure of the wait is what a caller is told:
it is the answer itself, or what an answer that reports the teardown's failure as well goes back to
(`Operation.awaitCreation_answers`).
-/

namespace ReplicaWatch

variable {σ : Type}

namespace ConvergenceError

/-- Every question about an error is answered as for another one. -/
structure AnswersFor (error cause : ConvergenceError) : Prop where
  primary : error.primary = cause
  service? : error.service? = cause.service?
  timeout? : error.timeout? = cause.timeout?
  isTimeout : error.isTimeout = cause.isTimeout
  isPermanent : error.isPermanent = cause.isPermanent
  isCancelled : error.isCancelled = cause.isCancelled

variable {cause : ConvergenceError}

theorem answersFor_self (own : cause.primary = cause) : cause.AnswersFor cause :=
  ⟨own, rfl, rfl, rfl, rfl, rfl⟩

/-- An error that reports the failure of a teardown is asked about the failure before. -/
theorem answersFor_teardownFailed (own : cause.primary = cause) (failure : ClusterError) :
    (teardownFailed cause failure).AnswersFor cause :=
  ⟨own, rfl, rfl, rfl, rfl, rfl⟩

/-- An error is at most one of a timeout, a permanent failure and a cancellation. -/
theorem count_kinds_le (error : ConvergenceError) :
    [error.isTimeout, error.isPermanent, error.isCancelled].count true ≤ 1 := by
  unfold isTimeout isPermanent isCancelled
  cases error.primary <;> dsimp only <;> decide

end ConvergenceError

namespace Operation

variable {client : Client σ} {id : String} {config : ConvergenceConfig} {token : Token}
  {w middle : World σ}

/-- A creation that converges is not torn down. -/
theorem awaitCreation_of_ok {convergence : Convergence}
    (waited : Wait.run ⟨id, config, .creating⟩ client token w = (.ok convergence, middle)) :
    awaitCreation client id config token w = (some (.ok convergence), middle) := by
  unfold awaitCreation
  rw [waited]

/-- What is answered for a failed wait and what became of the teardown. -/
def answerFor (error : ConvergenceError) :
    Except ClusterError TeardownReport → Except ConvergenceError Convergence
  | .ok _ => .error error
  | .error failure => .error (.teardownFailed error failure)

/-- One that fails is torn down, and the failure answers for what came of it. -/
theorem awaitCreation_of_error {error : ConvergenceError}
    {outcome : Option (Except ClusterError TeardownReport)} {after : World σ}
    (waited : Wait.run ⟨id, config, .creating⟩ client token w = (.error error, middle))
    (torn : Teardown.run client token id middle = (outcome, after)) :
    awaitCreation client id config token w = (outcome.map (answerFor error), after) := by
  unfold awaitCreation
  rw [waited]
  dsimp only
  rw [torn]
  cases outcome with
  | none => rfl
  | some outcome => cases outcome <;> rfl

/-- **What a creation answers.** Waiting for a service that was just created makes the calls of one
wait, and answers its success. Behind a failure come the calls of one teardown of the service,
beginning with its inspection; then the failure is answered, together with that of the teardown if
that failed as well. Every question about the answer is answered as for the failure of the wait, and
that is at most one of a timeout, a permanent failure and a cancellation. -/
theorem awaitCreation_answers (client : Client σ) (id : String) (config : ConvergenceConfig)
    (token : Token) (w : World σ) :
    ∃ result middle, Wait.run ⟨id, config, .creating⟩ client token w = (result, middle) ∧
      (∀ convergence, result = .ok convergence →
        awaitCreation client id config token w = (some (.ok convergence), middle) ∧
          ∀ made ∈ w.callsUntil middle, made.2.operation.isRead = true) ∧
      ∀ error, result = .error error →
        ∃ outcome after answer, Teardown.run client token id middle = (outcome, after) ∧
          awaitCreation client id config token w = (answer, after) ∧
          w.callsUntil after = w.callsUntil middle ++ middle.callsUntil after ∧
          (∃ rest, (middle.callsUntil after).map Prod.snd = .inspectService id :: rest) ∧
          (outcome = none → answer = none) ∧
          (∀ report, outcome = some (.ok report) → answer = some (.error error)) ∧
          (∀ failure, outcome = some (.error failure) →
            answer = some (.error (.teardownFailed error failure))) ∧
          ∀ answered, answer = some (.error answered) → answered.AnswersFor error ∧
            [answered.isTimeout, answered.isPermanent, answered.isCancelled].count true ≤ 1 := by
  have looked := Wait.run_grows ⟨id, config, .creating⟩ client token w
  rcases waited : Wait.run ⟨id, config, .creating⟩ client token w with ⟨result, middle⟩
  rw [waited] at looked
  refine ⟨result, middle, rfl, ?_, ?_⟩
  · rintro convergence rfl
    refine ⟨awaitCreation_of_ok waited, ?_⟩
    intro made member
    exact (looked.mem_callsUntil member).2.2.2.isRead
  · rintro error rfl
    -- A wait wraps no failure of a teardown, so that nothing is unwrapped twice.
    have own : error.primary = error := (Wait.run_fails waited).primary_eq
    have teardown := Teardown.run_unhurried client token id middle
    have begins := Teardown.run_begins client token id middle
    rcases torn : Teardown.run client token id middle with ⟨outcome, after⟩
    rw [torn] at teardown begins
    refine ⟨outcome, after, outcome.map (answerFor error), rfl, awaitCreation_of_error waited torn,
      ?_, begins, ?_, ?_, ?_, ?_⟩
    · exact looked.callsUntil_append teardown
    · rintro rfl
      rfl
    · rintro report rfl
      rfl
    · rintro failure rfl
      rfl
    · intro answered answer
      refine ⟨?_, answered.count_kinds_le⟩
      obtain ⟨report, rfl, answer⟩ := Option.map_eq_some_iff.mp answer
      cases report with
      | ok report =>
        cases answer
        exact ConvergenceError.answersFor_self own
      | error failure =>
        cases answer
        exact ConvergenceError.answersFor_teardownFailed own failure

end Operation

end ReplicaWatch
