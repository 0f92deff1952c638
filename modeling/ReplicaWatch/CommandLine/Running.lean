import ReplicaWatch.CommandLine
import ReplicaWatch.Convergence.Operation

/-! # Running commands

Each command is one operation on a service. Its outcome is what it prints, and, when the
operation fails, a failure that names the service before the operation's own wording.
-/

namespace ReplicaWatch

namespace Command

/-- What a command prints, and how it fails. -/
structure Outcome where
  printed : List String
  failure : Option String
  deriving DecidableEq

/-- An outcome without a failure. -/
def succeeded (lines : List String) : Outcome := ⟨lines, none⟩

/-- An outcome without anything printed. -/
def failed (context chain : String) : Outcome := ⟨[], some (context ++ ": " ++ chain)⟩

/-- The lines that show the progress of a service. -/
def progressLines (progress : Progress) : List String :=
  progress.text :: progress.slots.map fun line => "  " ++ line.text

/-- The lines that show a wait that succeeded. -/
def convergenceLines (convergence : Convergence) : List String :=
  ("Service " ++ convergence.service ++ " converged after " ++ convergence.elapsed.write ++
      " (" ++ toString convergence.polls ++ " polls)") ::
    (match convergence.progress with
      | none => []
      | some progress => progressLines progress)

/-- The lines that show what a teardown removed. -/
def teardownLines (service : String) (report : TeardownReport) : List String :=
  (if report.serviceRemoved then s!"Removed service {service}"
    else s!"Service {service} was already gone") ::
    report.containersRemoved.map fun container => s!"Removed container {container}"

/-- The outcome of a wait. -/
def ofWait (context : String) : Except ConvergenceError Convergence → Outcome
  | .ok convergence => succeeded (convergenceLines convergence)
  | .error error => failed context error.chain

/-- The outcome of a teardown. -/
def ofTeardown (service : String) : Except ClusterError TeardownReport → Outcome
  | .ok report => succeeded (teardownLines service report)
  | .error error => failed s!"Failed to tear down service '{service}'" error.chain

/-- The outcome of a look at a service. -/
def ofStatus (service : String) : Except ConvergenceError Progress → Outcome
  | .ok progress => succeeded (progressLines progress)
  | .error error => failed s!"Failed to read status of service '{service}'" error.chain

variable {σ : Type}

/-- Runs a command. There is no outcome if some call is never answered. -/
def run (command : Command) (settings : Settings) (client : Client σ) (token : Token)
    (w : World σ) : Option Outcome × World σ :=
  match command with
  | .create service flags =>
    let (result, w) :=
      Operation.awaitCreation client service (settings.convergenceFor flags) token w
    (result.map (ofWait s!"Creating service '{service}' did not converge"), w)
  | .update service flags =>
    let (result, w) :=
      Operation.awaitUpdate client service (settings.convergenceFor flags) token w
    (some (ofWait s!"Updating service '{service}' did not converge" result), w)
  | .teardown service =>
    let (result, w) := Teardown.run client token service w
    (result.map (ofTeardown service), w)
  | .status service rollback =>
    let (result, w) := Operation.status client service rollback w
    (result.map (ofStatus service), w)

end Command

end ReplicaWatch
