import ReplicaWatch.Duration

/-! # Writing durations

The one canonical text of a duration: `0s`; below a second a number of `ns`, `µs`
or `ms`; else hours, minutes and seconds, from the largest unit that is not zero.
Fractions have no trailing zeros.
-/

namespace ReplicaWatch.Duration

/-- A number below `10 ^ width` in exactly `width` digits. -/
def paddedDigits (width n : Nat) : List Char :=
  let digits := Nat.toDigits 10 n
  List.replicate (width - digits.length) '0' ++ digits

/-- A text of digits without the zeros at its end. -/
def dropTrailingZeros (cs : List Char) : List Char :=
  (cs.reverse.dropWhile (· == '0')).reverse

/-- `value` counted in units of `10 ^ width`, with the shortest exact fraction, and
the unit's name behind it. -/
def withFraction (value width : Nat) (unit : List Char) : List Char :=
  let whole := Nat.toDigits 10 (value / Nat.pow 10 width)
  let fraction := value % Nat.pow 10 width
  if fraction = 0 then whole ++ unit
  else whole ++ '.' :: dropTrailingZeros (paddedDigits width fraction) ++ unit

/-- The canonical text of a number of nanoseconds, as characters. -/
def writeNanos (n : Nat) : List Char :=
  if n = 0 then ['0', 's']
  else if n < 1000 then withFraction n 0 ['n', 's']
  else if n < 1000000 then withFraction n 3 ['\u00b5', 's']
  else if n < 1000000000 then withFraction n 6 ['m', 's']
  else
    let minutes := n / 60000000000 % 60
    let hours := n / 3600000000000
    let seconds := withFraction (n % 60000000000) 9 ['s']
    if 0 < hours then
      Nat.toDigits 10 hours ++ 'h' :: Nat.toDigits 10 minutes ++ 'm' :: seconds
    else if 0 < minutes then Nat.toDigits 10 minutes ++ 'm' :: seconds
    else seconds

/-- The canonical text of a duration. -/
def write (d : Duration) : String :=
  String.ofList (writeNanos d.nanos)

end ReplicaWatch.Duration
