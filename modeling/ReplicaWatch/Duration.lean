/-! # Lengths of time

A `Duration` is a whole number of nanoseconds, at most `2 ^ 64 - 1` seconds and
999 999 999 nanoseconds. Arithmetic saturates at that bound. Timers run on a clock
of whole milliseconds, and `Duration.ticks` is the number of milliseconds after
which a timer of that length fires.
-/

namespace ReplicaWatch

/-- The first number of nanoseconds that is too long for a duration. -/
def Duration.limit : Nat := Nat.pow 2 64 * 1000000000

/-- A length of time, in nanoseconds. -/
structure Duration where
  nanos : Nat
  nanos_lt : nanos < Duration.limit
  deriving DecidableEq

namespace Duration

theorem limit_pos : 0 < limit := by decide

@[ext] theorem ext {d e : Duration} (same : d.nanos = e.nanos) : d = e := by
  cases d; cases e; cases same; rfl

/-- A duration of exactly `n` nanoseconds, if there is one. -/
def ofNanos? (n : Nat) : Option Duration :=
  if h : n < limit then some ⟨n, h⟩ else none

/-- The duration closest to `n` nanoseconds. -/
def saturated (n : Nat) : Duration :=
  ⟨min n (limit - 1), by have := limit_pos; omega⟩

/-- The empty length of time. -/
def zero : Duration := ⟨0, limit_pos⟩

/-- A duration of whole seconds, saturating. -/
def ofSeconds (n : Nat) : Duration := saturated (n * 1000000000)

/-- A duration of whole milliseconds, saturating. -/
def ofMillis (n : Nat) : Duration := saturated (n * 1000000)

instance : Inhabited Duration := ⟨zero⟩

/-- The whole seconds in a duration. -/
def seconds (d : Duration) : Nat := d.nanos / 1000000000

/-- The nanoseconds that are left beyond the whole seconds. -/
def subsecondNanos (d : Duration) : Nat := d.nanos % 1000000000

/-- Whether a duration is the empty one. -/
def isZero (d : Duration) : Bool := d.nanos == 0

instance : LE Duration := ⟨fun d e => d.nanos ≤ e.nanos⟩

instance : LT Duration := ⟨fun d e => d.nanos < e.nanos⟩

instance (d e : Duration) : Decidable (d ≤ e) := inferInstanceAs (Decidable (d.nanos ≤ e.nanos))

instance (d e : Duration) : Decidable (d < e) := inferInstanceAs (Decidable (d.nanos < e.nanos))

instance : Min Duration := ⟨fun d e => if d ≤ e then d else e⟩

instance : Max Duration := ⟨fun d e => if d ≤ e then e else d⟩

/-- Twice a duration, saturating. -/
def double (d : Duration) : Duration := saturated (d.nanos * 2)

/-- What is left of `d` once `n` nanoseconds have passed. -/
def minusNanos (d : Duration) (n : Nat) : Duration :=
  ⟨d.nanos - n, Nat.lt_of_le_of_lt (Nat.sub_le _ _) d.nanos_lt⟩

/-- The milliseconds after which a timer of this length fires: a timer fires at the
first whole millisecond that is not before its end. -/
def ticks (d : Duration) : Nat := (d.nanos + 999999) / 1000000

@[simp] theorem nanos_zero : zero.nanos = 0 := rfl

@[simp] theorem nanos_minusNanos (d : Duration) (n : Nat) :
    (d.minusNanos n).nanos = d.nanos - n := rfl

@[simp] theorem nanos_min (d e : Duration) : (min d e).nanos = min d.nanos e.nanos := by
  change (if d.nanos ≤ e.nanos then d else e).nanos = _
  split <;> omega

@[simp] theorem nanos_max (d e : Duration) : (max d e).nanos = max d.nanos e.nanos := by
  change (if d.nanos ≤ e.nanos then e else d).nanos = _
  split <;> omega

theorem isZero_iff {d : Duration} : d.isZero = true ↔ d.nanos = 0 := by
  simp [isZero]

/-- A timer of some length fires later than it was set. -/
theorem ticks_pos_iff {d : Duration} : 0 < d.ticks ↔ 0 < d.nanos := by
  simp only [ticks]; omega

end Duration

end ReplicaWatch
