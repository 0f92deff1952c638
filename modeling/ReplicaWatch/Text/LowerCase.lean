/-! # Small letters

The small letters of the capitals of the Latin, Greek, Cyrillic and Armenian scripts. Most
capitals come in runs, in which every letter or every second one is a capital and all small
letters lie at the same distance. A character that is no such capital is its own small
letter.
-/

namespace ReplicaWatch.Text

/-- A run of capitals: the code points of the first and the last one, the step from one to
the next, and the distance to the small letters. -/
structure CapitalRun where
  first : Nat
  last : Nat
  step : Nat
  distance : Nat

/-- Whether a code point belongs to a run. -/
def CapitalRun.contains (run : CapitalRun) (n : Nat) : Bool :=
  decide (run.first ≤ n) && decide (n ≤ run.last) && (n - run.first) % run.step == 0

/-- The runs, in the order of their code points. -/
def capitalRuns : List CapitalRun :=
  [⟨0x41, 0x5A, 1, 32⟩, ⟨0xC0, 0xD6, 1, 32⟩, ⟨0xD8, 0xDE, 1, 32⟩, ⟨0x100, 0x12E, 2, 1⟩,
    ⟨0x132, 0x136, 2, 1⟩, ⟨0x139, 0x147, 2, 1⟩, ⟨0x14A, 0x176, 2, 1⟩, ⟨0x179, 0x17D, 2, 1⟩,
    ⟨0x1CD, 0x1DB, 2, 1⟩, ⟨0x1DE, 0x1EE, 2, 1⟩, ⟨0x1F8, 0x21E, 2, 1⟩, ⟨0x222, 0x232, 2, 1⟩,
    ⟨0x386, 0x386, 1, 38⟩, ⟨0x388, 0x38A, 1, 37⟩, ⟨0x38C, 0x38C, 1, 64⟩, ⟨0x38E, 0x38F, 1, 63⟩,
    ⟨0x391, 0x3A1, 1, 32⟩, ⟨0x3A3, 0x3AB, 1, 32⟩, ⟨0x400, 0x40F, 1, 80⟩, ⟨0x410, 0x42F, 1, 32⟩,
    ⟨0x460, 0x480, 2, 1⟩, ⟨0x48A, 0x4BE, 2, 1⟩, ⟨0x4C0, 0x4C0, 1, 15⟩, ⟨0x4C1, 0x4CD, 2, 1⟩,
    ⟨0x4D0, 0x52E, 2, 1⟩, ⟨0x531, 0x556, 1, 48⟩, ⟨0x1E00, 0x1E94, 2, 1⟩, ⟨0x1EA0, 0x1EFE, 2, 1⟩]

/-- The small letter of a character. -/
def small (c : Char) : Char :=
  if c = '\u0178' then '\u00ff'
  else if c = '\u1e9e' then '\u00df'
  else
    match capitalRuns.find? fun run => run.contains c.toNat with
    | some run => Char.ofNat (c.toNat + run.distance)
    | none => c

end ReplicaWatch.Text
