import ReplicaWatch.Convergence.Teardown
import ReplicaWatch.Convergence.Wait

/-! # Operations on a service

The operations that a caller chooses from: to wait for a service that was created, which
is removed again when it does not converge, to wait for one that was updated, to tear
one down, and to look at one once.
-/

namespace ReplicaWatch.Operation

variable {σ : Type}

/-- Waits for a service that was just created. On any failure it is torn down before the
failure is answered. There is no answer if a call of the teardown is never answered. -/
def awaitCreation (client : Client σ) (id : String) (config : ConvergenceConfig) (token : Token)
    (w : World σ) : Option (Except ConvergenceError Convergence) × World σ :=
  match Wait.run ⟨id, config, .creating⟩ client token w with
  | (.ok convergence, w) => (some (.ok convergence), w)
  | (.error error, w) =>
    match Teardown.run client token id w with
    | (none, w) => (none, w)
    | (some (.ok _), w) => (some (.error error), w)
    | (some (.error teardown), w) => (some (.error (.teardownFailed error teardown)), w)

/-- Waits for a service that was updated. A failed update leaves the service alone. -/
def awaitUpdate (client : Client σ) (id : String) (config : ConvergenceConfig) (token : Token)
    (w : World σ) : Except ConvergenceError Convergence × World σ :=
  Wait.run ⟨id, config, .updating⟩ client token w

/-- Looks at a service once. There is no answer if a call is never answered. -/
def status (client : Client σ) (id : String) (rollback : Bool) (w : World σ) :
    Option (Except ConvergenceError Progress) × World σ :=
  (Session.status id rollback).hold client w

end ReplicaWatch.Operation
