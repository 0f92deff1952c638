import ReplicaWatch.Convergence.Config
import ReplicaWatch.Daemon.Config

/-! # Settings

What the program can be told: how to wait, and where the daemon is. The flags of one
invocation lie on top of the settings, field by field; the flag for the first interval also
raises the longest one, unless a flag sets that one too.
-/

namespace ReplicaWatch

/-- What the program can be told. -/
structure Settings where
  convergence : ConvergenceConfig
  daemon : DaemonConfig
  deriving DecidableEq

/-- The lengths of time that flags set for one wait. -/
structure WaitFlags where
  timeout : Option Duration
  delay : Option Duration
  minInterval : Option Duration
  maxInterval : Option Duration
  deriving DecidableEq

namespace WaitFlags

/-- No flag is given. -/
def absent : WaitFlags := ⟨none, none, none, none⟩

/-- Sets the first interval if its flag is given. -/
def applyMinInterval (flags : WaitFlags) (config : ConvergenceConfig) : ConvergenceConfig :=
  match flags.minInterval with
  | none => config
  | some interval => config.withMinInterval interval

/-- A configuration with the flags on top. -/
def apply (flags : WaitFlags) (config : ConvergenceConfig) : ConvergenceConfig :=
  let config := flags.applyMinInterval config
  { timeout := flags.timeout.getD config.timeout
    delay := flags.delay.getD config.delay
    minInterval := config.minInterval
    maxInterval := flags.maxInterval.getD config.maxInterval }

end WaitFlags

namespace Settings

/-- The settings of someone who was told nothing. -/
def standard : Settings := ⟨.standard, .standard⟩

/-- The settings with the address of the daemon that a flag gives. -/
def withHost (settings : Settings) (host : Option String) : Settings :=
  { settings with
    daemon := { settings.daemon with host := host.getD settings.daemon.host } }

/-- How to wait, under the flags of one invocation. -/
def convergenceFor (settings : Settings) (flags : WaitFlags) : ConvergenceConfig :=
  flags.apply settings.convergence

end Settings

end ReplicaWatch
