import ReplicaWatch.Duration
import ReplicaWatch.Text.Blank

/-! # Reading durations

A duration is written as one or more terms such as `1m`, `30s` or `2.5ms`: ASCII
digits with an optional fraction, then a unit that reaches to the next digit, point
or the end of the text. A bare `0` is read too. Its value is the sum of the terms,
each cut to whole nanoseconds; of a fraction eighteen digits count. All of this is
calculated in numbers of 128 bits, and a text that needs a larger one is out of range.
-/

namespace ReplicaWatch

/-- Why a text is no duration. -/
inductive DurationFault where
  | empty
  | expectedNumber
  | missingUnit
  | unknownUnit (unit : String)
  | outOfRange
  deriving DecidableEq

/-- The wording of a fault. -/
def DurationFault.message : DurationFault → String
  | .empty => "empty duration"
  | .expectedNumber => "expected a number"
  | .missingUnit => "missing unit"
  | .unknownUnit unit => s!"unknown unit '{unit}'"
  | .outOfRange => "duration out of range"

namespace Duration

/-- The nanoseconds in one of a unit, given the unit's name. The micro sign may be
either of the two characters that look alike. -/
def unitNanos? (unit : String) : Option Nat :=
  match unit with
  | "ns" => some 1
  | "us" | "\u00b5s" | "\u03bcs" => some 1000
  | "ms" => some 1000000
  | "s" => some 1000000000
  | "m" => some 60000000000
  | "h" => some 3600000000000
  | _ => none

/-- The front of a text cut into the parts of a term, and the text behind it. -/
structure RawTerm where
  whole : List Char
  fraction : List Char
  unit : List Char
  rest : List Char

/-- Whether a character belongs to a unit's name rather than to the next number. -/
def isUnitChar (c : Char) : Bool := !(c.isDigit || c == '.')

/-- The digits behind a leading point and what follows them. -/
def splitFraction : List Char → List Char × List Char
  | '.' :: tail => (tail.takeWhile Char.isDigit, tail.dropWhile Char.isDigit)
  | cs => ([], cs)

/-- Cuts a text into digits, a fraction, a unit and the rest. Each part may be
empty. -/
def RawTerm.split (cs : List Char) : RawTerm :=
  let number := splitFraction (cs.dropWhile Char.isDigit)
  { whole := cs.takeWhile Char.isDigit
    fraction := number.1
    unit := number.2.takeWhile isUnitChar
    rest := number.2.dropWhile isUnitChar }

theorem length_splitFraction (cs : List Char) : (splitFraction cs).2.length ≤ cs.length := by
  unfold splitFraction
  split
  · next tail =>
    have := (List.dropWhile_sublist Char.isDigit (l := tail)).length_le
    simp only [List.length_cons]; omega
  · exact Nat.le_refl _

/-- A term with a unit is not empty, so the text behind it is shorter. -/
theorem RawTerm.length_rest_lt {cs : List Char} (unit : (RawTerm.split cs).unit ≠ []) :
    (RawTerm.split cs).rest.length < cs.length := by
  have number := length_splitFraction (cs.dropWhile Char.isDigit)
  have digits := (List.dropWhile_sublist Char.isDigit (l := cs)).length_le
  have parts := congrArg List.length
    (List.takeWhile_append_dropWhile (p := isUnitChar)
      (l := (splitFraction (cs.dropWhile Char.isDigit)).2))
  have := List.length_pos_iff.mpr unit
  simp only [RawTerm.split, List.length_append] at *
  omega

/-! ## Numbers of 128 bits -/

/-- The first number that does not fit into 128 bits. -/
def wideLimit : Nat := Nat.pow 2 128

/-- A number, if it fits into 128 bits. -/
def held? (n : Nat) : Option Nat := if n < wideLimit then some n else none

/-- The number of 128 bits that is closest to `n`. -/
def capped (n : Nat) : Nat := min n (wideLimit - 1)

/-- A quotient, unless it is one by zero. -/
def quotient? (n divisor : Nat) : Option Nat := if divisor = 0 then none else some (n / divisor)

/-- A fraction while its digits are taken in: the number they make, and the power of ten that it
is to be divided by. -/
structure Fraction where
  part : Nat
  divisor : Nat

/-- One more digit of a fraction. -/
def Fraction.push (fraction : Fraction) (digit : Char) : Fraction where
  part := capped (capped (fraction.part * 10) + (digit.toNat - '0'.toNat))
  divisor := capped (fraction.divisor * 10)

/-- The fraction that some digits make. Eighteen of them count. -/
def Fraction.ofDigits (digits : List Char) : Fraction := (digits.take 18).foldl push ⟨0, 1⟩

/-- The value of a number with a fraction in a unit of `scale` nanoseconds, cut to whole
nanoseconds, if no number on the way to it outgrows 128 bits. -/
def termNanos? (whole fraction : List Char) (scale : Nat) : Option Nat := do
  let units ← held? (Nat.ofDigitChars 10 whole 0)
  let value ← held? (units * scale)
  let fraction := Fraction.ofDigits fraction
  if 0 < fraction.part then
    let scaled ← held? (fraction.part * scale)
    let share ← quotient? scaled fraction.divisor
    held? (value + share)
  else
    some value

/-! ## Terms and their sum -/

/-- The value of one term, or what is wrong with it. -/
def RawTerm.nanos (term : RawTerm) : Except DurationFault Nat :=
  if term.whole.isEmpty && term.fraction.isEmpty then
    .error .expectedNumber
  else if term.unit.isEmpty then
    .error .missingUnit
  else
    match unitNanos? (String.ofList term.unit) with
    | none => .error (.unknownUnit (String.ofList term.unit))
    | some scale =>
      (termNanos? term.whole term.fraction scale).elim (.error .outOfRange) .ok

theorem RawTerm.unit_ne_nil {term : RawTerm} {n : Nat} (read : term.nanos = .ok n) :
    term.unit ≠ [] := by
  intro empty
  simp [RawTerm.nanos, empty] at read
  split at read <;> cases read

set_option linter.unusedVariables false in
/-- The sum of the terms of a text on top of `total`. A sum that outgrows 128 bits is
out of range before the next term is looked at. -/
def sumTerms (total : Nat) (cs : List Char) : Except DurationFault Nat :=
  if cs.isEmpty then
    .ok total
  else
    match read : (RawTerm.split cs).nanos with
    | .error fault => .error fault
    | .ok n =>
      if total + n < wideLimit then sumTerms (total + n) (RawTerm.split cs).rest
      else .error .outOfRange
termination_by cs.length
decreasing_by exact RawTerm.length_rest_lt (RawTerm.unit_ne_nil read)

/-- Reads a duration; blank characters around it do not count. -/
def read (text : String) : Except DurationFault Duration :=
  let cs := Text.trimChars text.toList
  if cs.isEmpty then
    .error .empty
  else if cs = ['0'] then
    .ok zero
  else
    match sumTerms 0 cs with
    | .error fault => .error fault
    | .ok n => (ofNanos? n).elim (.error .outOfRange) .ok

end Duration

end ReplicaWatch
