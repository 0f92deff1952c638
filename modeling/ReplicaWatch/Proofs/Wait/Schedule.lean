import Mathlib.Algebra.BigOperators.Group.Finset.Basic
import Mathlib.Algebra.BigOperators.Intervals
import Mathlib.Algebra.Order.BigOperators.Group.Finset
import ReplicaWatch.Convergence.Config

/-! # The schedule of polls

The intervals between polls in exact arithmetic: the `k`-th one is the first interval
doubled `k` times, or the longest one (`ConvergenceConfig.intervalNanos`). The saturating
doubling and the two clamps of `ConvergenceConfig.nextInterval` compute just these
(`ConvergenceConfig.nanos_nextInterval`). When calls take no time, the polls fall on
`ConvergenceConfig.pollTime`.
-/

namespace ReplicaWatch

namespace ConvergenceConfig

variable {config : ConvergenceConfig}

/-- The interval behind the `k`-th poll, counted from 0, in nanoseconds. -/
def intervalNanos (config : ConvergenceConfig) (k : Nat) : Nat :=
  min (config.minInterval.nanos * 2 ^ k) config.maxInterval.nanos

/-- The nanoseconds from the start of a wait to its `k`-th poll, counted from 0, when calls
take no time. -/
def pollTime (config : ConvergenceConfig) (k : Nat) : Nat :=
  config.delay.nanos + ∑ i ∈ Finset.range k, config.intervalNanos i

/-- The first interval is the least one. -/
theorem intervalNanos_zero (valid : config.Valid) :
    config.intervalNanos 0 = config.minInterval.nanos := by
  have := valid.minInterval_le
  simp only [intervalNanos, Nat.pow_zero, Nat.mul_one]
  omega

/-- No interval is below the least one. -/
theorem minInterval_le_intervalNanos (valid : config.Valid) (k : Nat) :
    config.minInterval.nanos ≤ config.intervalNanos k :=
  Nat.le_min.mpr ⟨Nat.le_mul_of_pos_right _ (Nat.two_pow_pos k), valid.minInterval_le⟩

/-- The intervals never get shorter. -/
theorem intervalNanos_mono (config : ConvergenceConfig) : Monotone config.intervalNanos := by
  intro k later sooner
  apply min_le_min_right
  exact Nat.mul_le_mul_left _ (Nat.pow_le_pow_right Nat.two_pos sooner)

/-- **Doubling is exact.** Neither the saturation nor the lower clamp is ever visible. -/
theorem nanos_nextInterval (valid : config.Valid) {interval : Duration} {k : Nat}
    (paced : interval.nanos = config.intervalNanos k) :
    (config.nextInterval interval).nanos = config.intervalNanos (k + 1) := by
  have longest := config.maxInterval.nanos_lt
  have lower := minInterval_le_intervalNanos valid (k + 1)
  simp only [nextInterval, Duration.nanos_max, Duration.nanos_min, Duration.double,
    Duration.saturated, paced]
  simp only [intervalNanos, Nat.pow_succ, ← Nat.mul_assoc] at lower ⊢
  generalize config.minInterval.nanos * 2 ^ k = doubled at lower ⊢
  omega

@[simp] theorem pollTime_zero (config : ConvergenceConfig) :
    config.pollTime 0 = config.delay.nanos := by
  simp [pollTime]

/-- A poll comes one interval behind the one before it. -/
theorem pollTime_succ (config : ConvergenceConfig) (k : Nat) :
    config.pollTime (k + 1) = config.pollTime k + config.intervalNanos k := by
  rw [pollTime, Finset.sum_range_succ, ← Nat.add_assoc, pollTime]

/-- Later polls come no sooner. -/
theorem pollTime_mono (config : ConvergenceConfig) : Monotone config.pollTime :=
  monotone_nat_of_le_succ fun k => by
    rw [pollTime_succ]
    exact Nat.le_add_right _ _

/-- A configuration all of whose lengths are whole milliseconds. -/
structure Whole (config : ConvergenceConfig) : Prop where
  timeout : 1000000 ∣ config.timeout.nanos
  delay : 1000000 ∣ config.delay.nanos
  minInterval : 1000000 ∣ config.minInterval.nanos
  maxInterval : 1000000 ∣ config.maxInterval.nanos

/-- Intervals are whole milliseconds when their bounds are. -/
theorem Whole.intervalNanos (whole : config.Whole) (k : Nat) :
    1000000 ∣ config.intervalNanos k := by
  rcases min_choice (config.minInterval.nanos * 2 ^ k) config.maxInterval.nanos with first | longest
  · rw [ConvergenceConfig.intervalNanos, first]
    exact Dvd.dvd.mul_right whole.minInterval _
  · rw [ConvergenceConfig.intervalNanos, longest]
    exact whole.maxInterval

end ConvergenceConfig

/-- Timers of whole milliseconds fire exactly at their deadline. -/
theorem Duration.ticks_of_whole {d : Duration} (whole : 1000000 ∣ d.nanos) :
    d.ticks * 1000000 = d.nanos := by
  simp only [Duration.ticks]
  omega

end ReplicaWatch
