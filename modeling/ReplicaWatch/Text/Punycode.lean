/-! # Punycode

A label of a domain name is written in ASCII: its characters of ASCII come first, and the
others follow as a list of insertions. The characters are inserted in the order of their
code points, and each insertion is the number of places that were passed over since the
last one, counted through all code points between. The numbers have digits of base 36, and
each digit's *threshold* says whether it is the last one; the thresholds are adapted to the
sizes of the numbers before. `encode` writes a label, and `decode?` reads one back.
-/

namespace ReplicaWatch.Text.Punycode

/-! ## Numbers -/

/-- The digit of a value below 36: a letter, or behind the letters a numeral. -/
def digit (n : Nat) : Char := Char.ofNat (if n < 26 then 0x61 + n else 0x30 + (n - 26))

/-- The threshold of the digit at some position, counted in steps of 36. -/
def threshold (position bias : Nat) : Nat := min 26 (max 1 (position - bias))

theorem threshold_bounds (position bias : Nat) :
    1 ≤ threshold position bias ∧ threshold position bias ≤ 26 := by
  simp only [threshold]; omega

/-- The digits of a number, the last of which is below its threshold. -/
def digits (bias position n : Nat) : List Char :=
  let t := threshold position bias
  if n < t then [digit n]
  else digit (t + (n - t) % (36 - t)) :: digits bias (position + 36) ((n - t) / (36 - t))
termination_by n
decreasing_by
  have := threshold_bounds position bias
  exact Nat.lt_of_le_of_lt (Nat.div_le_self _ _) (by omega)

/-- The part of the bias that grows with the size of a number. -/
def spread (n bias : Nat) : Nat :=
  if 455 < n then spread (n / 35) (bias + 36) else bias + 36 * n / (n + 38)
termination_by n
decreasing_by exact Nat.div_lt_self (by omega) (by omega)

/-- The bias behind a number that made a text of `length` characters. The first number of a
text counts less. -/
def adapted (first : Bool) (n length : Nat) : Nat :=
  let scaled := n / (if first then 700 else 2)
  spread (scaled + scaled / length) 0

/-! ## Writing -/

/-- An encoding on the way. -/
structure Draft where
  /-- The digits so far, in order. -/
  output : List Char
  /-- The places passed over since the last insertion. -/
  passed : Nat
  bias : Nat
  /-- The length of the text that the insertions so far make. -/
  length : Nat
  /-- Whether nothing has been inserted yet. -/
  first : Bool

/-- Passes one character of the text while the code point `point` is being inserted. -/
def Draft.pass (point : Nat) (draft : Draft) (c : Char) : Draft :=
  if c.toNat < point then { draft with passed := draft.passed + 1 }
  else if c.toNat = point then
    { output := draft.output ++ digits draft.bias 36 draft.passed
      passed := 0
      bias := adapted draft.first draft.passed (draft.length + 1)
      length := draft.length + 1
      first := false }
  else draft

/-- Inserts the code points, which are ascending; `next` is the first that could come. -/
def Draft.insert (cs : List Char) : List Nat → Nat → Draft → Draft
  | [], _, draft => draft
  | point :: rest, next, draft =>
    let reached := { draft with passed := draft.passed + (point - next) * (draft.length + 1) }
    let through := cs.foldl (Draft.pass point) reached
    Draft.insert cs rest (point + 1) { through with passed := through.passed + 1 }

/-- The code points beyond ASCII in a text, ascending, each once. -/
def points (cs : List Char) : List Nat :=
  (((cs.map Char.toNat).filter (0x80 ≤ ·)).mergeSort fun m n => decide (m ≤ n)).eraseDups

/-- The text in ASCII, without a mark that it is in this form. -/
def encode (cs : List Char) : List Char :=
  let basic := cs.filter fun c => c.toNat < 0x80
  let lead := if basic.isEmpty then [] else basic ++ ['-']
  lead ++ (Draft.insert cs (points cs) 0x80 ⟨[], 0, 72, basic.length, true⟩).output

/-! ## Reading -/

/-- The value of a digit. -/
def value? (c : Char) : Option Nat :=
  if 'a' ≤ c ∧ c ≤ 'z' then some (c.toNat - 0x61)
  else if c.isDigit then some (c.toNat - 0x30 + 26)
  else none

/-- A decoding on the way. -/
structure Reading where
  /-- The text that the insertions so far make. -/
  output : List Char
  /-- The number that the digits since the last insertion make. -/
  passed : Nat
  /-- What one more of the next digit is worth. -/
  weight : Nat
  position : Nat
  bias : Nat
  /-- The code point of the last insertion. -/
  point : Nat
  /-- The place behind the last insertion. -/
  place : Nat
  first : Bool

/-- Reads one digit. The last digit of a number makes an insertion. -/
def Reading.take? (reading : Reading) (c : Char) : Option Reading :=
  (value? c).map fun d =>
    let passed := reading.passed + d * reading.weight
    let t := threshold reading.position reading.bias
    if d < t then
      let length := reading.output.length + 1
      let reached := reading.place + passed
      let point := reading.point + reached / length
      let place := reached % length
      { output := reading.output.insertIdx place (Char.ofNat point)
        passed := 0
        weight := 1
        position := 36
        bias := adapted reading.first passed length
        point
        place := place + 1
        first := false }
    else
      { reading with
        passed
        weight := reading.weight * (36 - t)
        position := reading.position + 36 }

/-- The text that a text in ASCII encodes; the last hyphen ends the characters of ASCII. -/
def decode? (cs : List Char) : Option (List Char) :=
  let numbers := (cs.reverse.takeWhile (· != '-')).reverse
  let basic := cs.take (cs.length - numbers.length - 1)
  (numbers.foldlM Reading.take? ⟨basic, 0, 1, 36, 72, 0x80, 0, true⟩).map Reading.output

end ReplicaWatch.Text.Punycode
