import ReplicaWatch.Duration.Writing

/-! # How long and how often to poll

The four lengths of time that drive a wait, and the condition under which they can:
`ConvergenceConfig.Valid`. `ConvergenceConfig.fault?` finds the first reason against it
(`fault?_eq_none_iff`).
-/

namespace ReplicaWatch

/-- How long to wait for convergence and how often to look. -/
structure ConvergenceConfig where
  /-- Bound on the whole wait. -/
  timeout : Duration
  /-- Wait before the first poll. -/
  delay : Duration
  /-- First interval between polls. -/
  minInterval : Duration
  /-- Intervals double up to this one. -/
  maxInterval : Duration
  deriving DecidableEq

/-- Why a configuration cannot drive a wait. -/
inductive ConfigFault where
  | zeroTimeout
  | zeroInterval
  /-- The first interval is longer than the longest one. -/
  | inverted (min max : Duration)
  /-- Any other reason. -/
  | other (reason : String)
  deriving DecidableEq

/-- The wording of a fault. -/
def ConfigFault.message : ConfigFault → String
  | .zeroTimeout => "timeout must be greater than zero"
  | .zeroInterval => "min_poll_interval must be greater than zero"
  | .inverted min max =>
    "min_poll_interval (" ++ min.write ++ ") exceeds max_poll_interval (" ++ max.write ++ ")"
  | .other reason => reason

namespace ConvergenceConfig

/-- Three minutes at most, the first poll after seven seconds, intervals of five to ten
seconds. -/
def standard : ConvergenceConfig where
  timeout := .ofSeconds 180
  delay := .ofSeconds 7
  minInterval := .ofSeconds 5
  maxInterval := .ofSeconds 10

/-- Sets the first interval, and raises the longest one if it would fall below it. -/
def withMinInterval (config : ConvergenceConfig) (interval : Duration) : ConvergenceConfig :=
  { config with minInterval := interval, maxInterval := max config.maxInterval interval }

/-- A configuration that can drive a wait. -/
structure Valid (config : ConvergenceConfig) : Prop where
  timeout_pos : 0 < config.timeout.nanos
  minInterval_pos : 0 < config.minInterval.nanos
  minInterval_le : config.minInterval.nanos ≤ config.maxInterval.nanos

/-- The first reason why a configuration cannot drive a wait. -/
def fault? (config : ConvergenceConfig) : Option ConfigFault :=
  if config.timeout.isZero then some .zeroTimeout
  else if config.minInterval.isZero then some .zeroInterval
  else if config.maxInterval < config.minInterval then
    some (.inverted config.minInterval config.maxInterval)
  else none

theorem fault?_eq_none_iff {config : ConvergenceConfig} : config.fault? = none ↔ config.Valid := by
  have order : config.maxInterval < config.minInterval ↔
      config.maxInterval.nanos < config.minInterval.nanos := Iff.rfl
  unfold fault?
  constructor
  · intro sound
    split at sound
    · cases sound
    · split at sound
      · cases sound
      · split at sound
        · cases sound
        · rename_i timeout interval inverted
          simp only [Duration.isZero_iff, order] at timeout interval inverted
          exact ⟨by omega, by omega, by omega⟩
  · intro valid
    have := valid.timeout_pos
    have := valid.minInterval_pos
    have := valid.minInterval_le
    rw [if_neg, if_neg, if_neg]
    · rw [order]; omega
    · rw [Duration.isZero_iff]; omega
    · rw [Duration.isZero_iff]; omega

instance (config : ConvergenceConfig) : Decidable config.Valid :=
  decidable_of_iff (config.fault? = none) fault?_eq_none_iff

/-- The interval that follows `interval`: twice as long, within the bounds. -/
def nextInterval (config : ConvergenceConfig) (interval : Duration) : Duration :=
  max (min interval.double config.maxInterval) config.minInterval

theorem nextInterval_pos {config : ConvergenceConfig} (valid : config.Valid)
    (interval : Duration) : 0 < (config.nextInterval interval).nanos := by
  have := valid.minInterval_pos
  simp only [nextInterval, Duration.nanos_max]
  omega

end ConvergenceConfig

end ReplicaWatch
