import ReplicaWatch.Proofs.Duration.RoundTrip

/-! # Canonical texts

Which texts durations are written as, said without a writer (`Canonical`): a whole number of
nanoseconds, a number of microseconds or milliseconds with a fraction, or hours, minutes and seconds
of which the leading ones that are zero are left out. A number has just one numeral without leading
zeros (`Numeral.unique`) and a fraction just one without trailing zeros (`Decimals.eq_written`), so
that a text is canonical for a number of nanoseconds just when that number is written so
(`writeNanos_eq_iff`). A text is written for some duration just when it is canonical and not too
long, and then it is read as the duration that it is written for (`written_iff_canonical`).
-/

namespace ReplicaWatch.Duration

/-! ## Digits and the numbers they make -/

/-- Digits of one value are one digit. -/
theorem digitChars_injective {c d : Char} (first : c.isDigit = true) (second : d.isDigit = true)
    (same : c.toNat - '0'.toNat = d.toNat - '0'.toNat) : c = d := by
  obtain ⟨least, -⟩ := Char.isDigit_iff_toNat.mp first
  obtain ⟨least', -⟩ := Char.isDigit_iff_toNat.mp second
  have zero : '0'.toNat = 48 := rfl
  rw [zero] at same
  exact Char.toNat_inj.mp (by omega)

theorem isDigit_of_mem_zeros {count : Nat} : ∀ c ∈ List.replicate count '0', c.isDigit = true := by
  intro c member
  rw [List.eq_of_mem_replicate member]
  rfl

/-- Digits make a number with no more digits. -/
theorem ofDigitChars_lt {cs : List Char} (digits : ∀ c ∈ cs, c.isDigit = true) :
    Nat.ofDigitChars 10 cs 0 < 10 ^ cs.length := by
  induction cs with
  | nil => exact Nat.one_pos
  | cons c cs ih =>
    obtain ⟨first, others⟩ := List.forall_mem_cons.mp digits
    have value := digit_le_nine first
    rw [Nat.ofDigitChars_cons, Nat.ofDigitChars_eq_ofDigitChars_zero, List.length_cons, pow_succ]
    calc 10 ^ cs.length * (10 * 0 + (c.toNat - '0'.toNat)) + Nat.ofDigitChars 10 cs 0
        ≤ 10 ^ cs.length * 9 + Nat.ofDigitChars 10 cs 0 :=
          Nat.add_le_add_right (Nat.mul_le_mul_left _ (by omega)) _
      _ < 10 ^ cs.length * 9 + 10 ^ cs.length := Nat.add_lt_add_left (ih others) _
      _ = 10 ^ cs.length * 10 := (Nat.mul_succ _ 9).symm

/-- Equally many digits that make the same number are the same digits. -/
theorem eq_of_ofDigitChars {cs ds : List Char} (length : cs.length = ds.length)
    (digits : ∀ c ∈ cs, c.isDigit = true) (digits' : ∀ c ∈ ds, c.isDigit = true) {n m : Nat}
    (same : Nat.ofDigitChars 10 cs n = Nat.ofDigitChars 10 ds m) : n = m ∧ cs = ds := by
  induction cs generalizing ds n m with
  | nil =>
    rw [List.eq_nil_of_length_eq_zero length.symm] at same ⊢
    exact ⟨same, rfl⟩
  | cons c cs ih =>
    obtain ⟨d, ds, rfl⟩ := List.exists_cons_of_length_eq_add_one length.symm
    obtain ⟨first, others⟩ := List.forall_mem_cons.mp digits
    obtain ⟨first', others'⟩ := List.forall_mem_cons.mp digits'
    rw [Nat.ofDigitChars_cons, Nat.ofDigitChars_cons] at same
    obtain ⟨sum, rfl⟩ := ih (Nat.succ.inj length) others others' same
    have small := digit_le_nine first
    have small' := digit_le_nine first'
    refine ⟨by omega, ?_⟩
    rw [digitChars_injective first first' (by omega)]

/-! ## Numerals -/

/-- A numeral without leading zeros, and the number that it stands for. -/
structure Numeral (cs : List Char) (n : Nat) : Prop where
  digits : ∀ c ∈ cs, c.isDigit = true
  ne_nil : cs ≠ []
  leading : cs.head? = some '0' → cs = ['0']
  value : Nat.ofDigitChars 10 cs 0 = n

/-- The digits that are written for a number are its numeral. -/
theorem numeral_toDigits (n : Nat) : Numeral (Nat.toDigits 10 n) n where
  digits := isDigit_of_mem_toDigits
  ne_nil := Nat.toDigits_ne_nil
  leading zero := by
    obtain ⟨rest, shape⟩ := List.head?_eq_some_iff.mp zero
    have value : Nat.ofDigitChars 10 (Nat.toDigits 10 n) 0 = n := Nat.ofDigitChars_ten_toDigits
    have digits : ∀ c ∈ rest, c.isDigit = true := fun c member =>
      isDigit_of_mem_toDigits c (shape ▸ List.mem_cons_of_mem _ member)
    have small := ofDigitChars_lt digits
    rw [shape] at value
    -- Without the zero there would be as many digits as the number needs.
    by_cases empty : rest = []
    · rw [shape, empty]
    · change Nat.ofDigitChars 10 rest 0 = n at value
      rw [value] at small
      have enough : (Nat.toDigits 10 n).length ≤ rest.length :=
        (Nat.length_toDigits_le_iff (by decide) (List.length_pos_iff.mpr empty)).mpr small
      rw [shape, List.length_cons] at enough
      exact absurd enough (Nat.not_succ_le_self _)
  value := Nat.ofDigitChars_ten_toDigits

namespace Numeral

variable {cs ds : List Char} {n : Nat}

/-- No two numerals of a number differ in length. -/
private theorem length_le (numeral : Numeral cs n) (other : Numeral ds n) :
    cs.length ≤ ds.length := by
  by_contra! longer
  have digits : ∀ c ∈ List.replicate (cs.length - ds.length) '0' ++ ds, c.isDigit = true :=
    List.forall_mem_append.mpr ⟨isDigit_of_mem_zeros, other.digits⟩
  obtain ⟨-, padded⟩ := eq_of_ofDigitChars (n := 0) (m := 0)
    (by rw [List.length_append, List.length_replicate]; omega) numeral.digits digits (by
      rw [Nat.ofDigitChars_append, Nat.ofDigitChars_replicate_zero, Nat.mul_zero, numeral.value,
        other.value])
  obtain ⟨zeros, more⟩ := Nat.exists_eq_add_of_lt longer
  have head : cs.head? = some '0' := by
    rw [padded, show cs.length - ds.length = zeros + 1 by omega, List.replicate_succ]
    rfl
  have single := congrArg List.length (numeral.leading head)
  rw [List.length_singleton] at single
  exact other.ne_nil (List.eq_nil_of_length_eq_zero (by omega))

/-- **A number has one numeral.** -/
theorem unique (numeral : Numeral cs n) (other : Numeral ds n) : cs = ds :=
  (eq_of_ofDigitChars (Nat.le_antisymm (numeral.length_le other) (other.length_le numeral))
    numeral.digits other.digits (numeral.value.trans other.value.symm)).2

/-- The only numeral of a number is the one that is written. -/
theorem eq_toDigits (numeral : Numeral cs n) : cs = Nat.toDigits 10 n :=
  numeral.unique (numeral_toDigits n)

end Numeral

/-! ## Fractions -/

/-- What may stand between a number and its unit, and how many parts of `10 ^ width` it adds:
nothing, or a point with at most `width` digits behind it, the last of which is no zero. -/
inductive Decimals (width : Nat) : List Char → Nat → Prop where
  | none : Decimals width [] 0
  | pointed {cs : List Char} (digits : ∀ c ∈ cs, c.isDigit = true) (ne_nil : cs ≠ [])
      (short : cs.length ≤ width) (trimmed : cs.getLast? ≠ some '0') :
      Decimals width ('.' :: cs) (Nat.ofDigitChars 10 cs 0 * 10 ^ (width - cs.length))

/-- Zeros behind a text that does not end in one are dropped. -/
theorem dropTrailingZeros_append {cs : List Char} (trimmed : cs.getLast? ≠ some '0')
    (zeros : Nat) : dropTrailingZeros (cs ++ List.replicate zeros '0') = cs := by
  have all : ∀ c ∈ List.replicate zeros '0', (c == '0') = true := fun c member =>
    beq_iff_eq.mpr (List.eq_of_mem_replicate member)
  have stops : ∀ c ∈ cs.reverse.head?, (c == '0') = false := by
    intro c head
    rw [List.head?_reverse] at head
    exact beq_eq_false_iff_ne.mpr fun zero => trimmed (zero ▸ head)
  obtain ⟨-, dropped⟩ := takeWhile_dropWhile_append all stops
  rw [dropTrailingZeros, List.reverse_append, List.reverse_replicate, dropped, List.reverse_reverse]

/-- No zero is left at the end. -/
theorem getLast?_dropTrailingZeros (cs : List Char) :
    (dropTrailingZeros cs).getLast? ≠ some '0' := by
  intro last
  have found := List.head?_dropWhile_not (· == '0') cs.reverse
  rw [dropTrailingZeros, List.getLast?_reverse] at last
  rw [last] at found
  cases found

/-- A part of a unit is written as decimals that stand for it. -/
theorem decimals_of_lt {width part : Nat} (small : part < 10 ^ width) :
    Decimals width
      (if part = 0 then [] else '.' :: dropTrailingZeros (paddedDigits width part)) part := by
  split
  · next zero =>
    rw [zero]
    exact .none
  · next positive =>
    have wide : 0 < width := Nat.pos_of_ne_zero (by rintro rfl; omega)
    obtain ⟨zeros, split⟩ := exists_dropTrailingZeros (paddedDigits width part)
    have value := ofDigitChars_paddedDigits width part
    have length := length_paddedDigits wide small
    have digits : ∀ c ∈ dropTrailingZeros (paddedDigits width part), c.isDigit = true :=
      isDigit_of_mem_fraction
    have trimmed := getLast?_dropTrailingZeros (paddedDigits width part)
    generalize dropTrailingZeros (paddedDigits width part) = kept at *
    rw [split] at value length
    rw [Nat.ofDigitChars_append, Nat.ofDigitChars_replicate_zero, Nat.mul_comm] at value
    rw [List.length_append, List.length_replicate] at length
    have rest : zeros = width - kept.length := by omega
    have present : kept ≠ [] := by
      rintro rfl
      rw [Nat.ofDigitChars_nil, Nat.zero_mul] at value
      exact positive value.symm
    have pointed : Decimals width ('.' :: kept)
        (Nat.ofDigitChars 10 kept 0 * 10 ^ (width - kept.length)) :=
      .pointed digits present (by omega) trimmed
    rwa [← rest, value] at pointed

namespace Decimals

variable {width part : Nat} {cs ds : List Char}

/-- Decimals stand for less than a unit. -/
theorem lt (decimals : Decimals width cs part) : part < 10 ^ width := by
  cases decimals with
  | none => positivity
  | @pointed cs digits ne_nil short trimmed =>
    calc Nat.ofDigitChars 10 cs 0 * 10 ^ (width - cs.length)
        < 10 ^ cs.length * 10 ^ (width - cs.length) :=
          Nat.mul_lt_mul_of_pos_right (ofDigitChars_lt digits) (by positivity)
      _ = 10 ^ width := by rw [← pow_add, Nat.add_sub_cancel' short]

/-- **A fraction is written in one way.** -/
theorem eq_written (decimals : Decimals width cs part) :
    cs = if part = 0 then [] else '.' :: dropTrailingZeros (paddedDigits width part) := by
  have small := decimals.lt
  cases decimals with
  | none => rfl
  | @pointed cs digits ne_nil short trimmed =>
    have wide : 0 < width := Nat.lt_of_lt_of_le (List.length_pos_iff.mpr ne_nil) short
    have padded : ∀ c ∈ cs ++ List.replicate (width - cs.length) '0', c.isDigit = true :=
      List.forall_mem_append.mpr ⟨digits, isDigit_of_mem_zeros⟩
    obtain ⟨-, same⟩ := eq_of_ofDigitChars (n := 0) (m := 0)
      (by rw [length_paddedDigits wide small, List.length_append, List.length_replicate]; omega)
      isDigit_of_mem_paddedDigits padded (by
        rw [ofDigitChars_paddedDigits, Nat.ofDigitChars_append, Nat.ofDigitChars_replicate_zero,
          Nat.mul_comm])
    rw [same, dropTrailingZeros_append trimmed, if_neg]
    intro zero
    -- Digits that make nothing are zeros, and the last one is none.
    have nothing : Nat.ofDigitChars 10 cs 0 = 0 :=
      (Nat.mul_eq_zero.mp zero).resolve_right (by positivity)
    have same : Nat.ofDigitChars 10 cs 0 =
        Nat.ofDigitChars 10 (List.replicate cs.length '0') 0 := by
      rw [nothing, Nat.ofDigitChars_replicate_zero, Nat.mul_zero]
    obtain ⟨-, zeros⟩ :=
      eq_of_ofDigitChars List.length_replicate.symm digits isDigit_of_mem_zeros same
    apply trimmed
    rw [zeros, List.getLast?_replicate, if_neg (by simpa using ne_nil)]

end Decimals

variable {width part number : Nat} {whole decimals : List Char}

/-- A number with decimals is written as its numeral and these decimals. -/
theorem withFraction_of_decimals (numeral : Numeral whole number)
    (fraction : Decimals width decimals part) (unit : List Char) :
    withFraction (number * 10 ^ width + part) width unit = whole ++ (decimals ++ unit) := by
  have small := fraction.lt
  have quotient : (number * 10 ^ width + part) / 10 ^ width = number := by
    rw [Nat.mul_comm, Nat.mul_add_div (by positivity), Nat.div_eq_of_lt small, Nat.add_zero]
  have remainder : (number * 10 ^ width + part) % 10 ^ width = part := by
    rw [Nat.mul_comm, Nat.mul_add_mod, Nat.mod_eq_of_lt small]
  unfold withFraction
  simp only [Nat.pow_eq, quotient, remainder]
  rw [fraction.eq_written, numeral.eq_toDigits]
  split
  · rfl
  · rw [List.append_assoc]

/-- What is written for a value is the numeral of its whole units and the decimals of the rest. -/
theorem exists_decimals_of_withFraction (value width : Nat) (unit : List Char) :
    ∃ whole decimals, withFraction value width unit = whole ++ (decimals ++ unit) ∧
      Numeral whole (value / 10 ^ width) ∧ Decimals width decimals (value % 10 ^ width) := by
  have numeral := numeral_toDigits (value / 10 ^ width)
  have fraction := decimals_of_lt (Nat.mod_lt value (show 0 < 10 ^ width by positivity))
  refine ⟨_, _, ?_, numeral, fraction⟩
  rw [← withFraction_of_decimals numeral fraction, Nat.div_add_mod']

/-- Without parts of a unit, a value is written as its numeral. -/
theorem withFraction_zero (value : Nat) (unit : List Char) :
    withFraction value 0 unit = Nat.toDigits 10 value ++ unit := by
  simp [withFraction, Nat.mod_one]

/-! ## Canonical texts -/

/-- The canonical text of a number of nanoseconds. -/
inductive Canonical : List Char → Nat → Prop where
  | zero : Canonical ['0', 's'] 0
  | nanoseconds {whole : List Char} {number : Nat} (numeral : Numeral whole number)
      (range : 1 ≤ number ∧ number ≤ 999) : Canonical (whole ++ ['n', 's']) number
  | microseconds {whole decimals : List Char} {number part : Nat} (numeral : Numeral whole number)
      (range : 1 ≤ number ∧ number ≤ 999) (fraction : Decimals 3 decimals part) :
      Canonical (whole ++ (decimals ++ ['\u00b5', 's'])) (number * 1000 + part)
  | milliseconds {whole decimals : List Char} {number part : Nat} (numeral : Numeral whole number)
      (range : 1 ≤ number ∧ number ≤ 999) (fraction : Decimals 6 decimals part) :
      Canonical (whole ++ (decimals ++ ['m', 's'])) (number * 1000000 + part)
  | seconds {whole decimals : List Char} {second part : Nat} (numeral : Numeral whole second)
      (range : 1 ≤ second ∧ second ≤ 59) (fraction : Decimals 9 decimals part) :
      Canonical (whole ++ (decimals ++ ['s'])) (second * 1000000000 + part)
  | minutes {minuteText whole decimals : List Char} {minute second part : Nat}
      (minutes : Numeral minuteText minute) (range : 1 ≤ minute ∧ minute ≤ 59)
      (seconds : Numeral whole second) (second_le : second ≤ 59)
      (fraction : Decimals 9 decimals part) :
      Canonical (minuteText ++ 'm' :: (whole ++ (decimals ++ ['s'])))
        ((minute * 60 + second) * 1000000000 + part)
  | hours {hourText minuteText whole decimals : List Char} {hour minute second part : Nat}
      (hours : Numeral hourText hour) (positive : 1 ≤ hour)
      (minutes : Numeral minuteText minute) (minute_le : minute ≤ 59)
      (seconds : Numeral whole second) (second_le : second ≤ 59)
      (fraction : Decimals 9 decimals part) :
      Canonical (hourText ++ 'h' :: (minuteText ++ 'm' :: (whole ++ (decimals ++ ['s']))))
        (((hour * 60 + minute) * 60 + second) * 1000000000 + part)

/-- From a second on, hours and minutes are written as far as there are any. -/
theorem canonical_of_seconds {n : Nat} (long : 1000000000 ≤ n) : Canonical (writeNanos n) n := by
  obtain ⟨whole, decimals, written, seconds, fraction⟩ :=
    exists_decimals_of_withFraction (n % 60000000000) 9 ['s']
  have minutes := numeral_toDigits (n / 60000000000 % 60)
  have hours := numeral_toDigits (n / 3600000000000)
  unfold writeNanos
  rw [if_neg (by omega), if_neg (by omega), if_neg (by omega), if_neg (by omega)]
  dsimp only
  rw [written]
  split
  · next positive =>
    have canonical := Canonical.hours hours positive minutes (by omega) seconds (by omega) fraction
    rw [List.append_assoc, List.cons_append]
    convert canonical using 1
    omega
  · split
    · next positive =>
      have canonical := Canonical.minutes minutes (by omega) seconds (by omega) fraction
      convert canonical using 1
      omega
    · have canonical := Canonical.seconds seconds (by omega) fraction
      convert canonical using 1
      omega

/-- What is written for a number of nanoseconds is canonical. -/
theorem canonical_writeNanos (n : Nat) : Canonical (writeNanos n) n := by
  by_cases long : 1000000000 ≤ n
  · exact canonical_of_seconds long
  · unfold writeNanos
    split
    · next zero =>
      rw [zero]
      exact .zero
    · split
      · rw [withFraction_zero]
        exact .nanoseconds (numeral_toDigits n) (by omega)
      · split
        · obtain ⟨whole, decimals, written, numeral, fraction⟩ :=
            exists_decimals_of_withFraction n 3 ['\u00b5', 's']
          rw [written]
          convert Canonical.microseconds numeral (by omega) fraction using 1
          omega
        · rw [if_pos (Nat.lt_of_not_le long)]
          obtain ⟨whole, decimals, written, numeral, fraction⟩ :=
            exists_decimals_of_withFraction n 6 ['m', 's']
          rw [written]
          convert Canonical.milliseconds numeral (by omega) fraction using 1
          omega

/-- A number of nanoseconds is written as its canonical text, whichever one is given. -/
theorem Canonical.writeNanos_eq {cs : List Char} {n : Nat} (canonical : Canonical cs n) :
    writeNanos n = cs := by
  unfold writeNanos
  cases canonical with
  | zero => rfl
  | nanoseconds numeral range =>
    rw [if_neg (by omega), if_pos (by omega), withFraction_zero, numeral.eq_toDigits]
  | microseconds numeral range fraction =>
    have small := fraction.lt
    rw [if_neg (by omega), if_neg (by omega), if_pos (by omega)]
    exact withFraction_of_decimals numeral fraction ['\u00b5', 's']
  | milliseconds numeral range fraction =>
    have small := fraction.lt
    rw [if_neg (by omega), if_neg (by omega), if_neg (by omega), if_pos (by omega)]
    exact withFraction_of_decimals numeral fraction ['m', 's']
  | @seconds whole decimals second part numeral range fraction =>
    have small := fraction.lt
    have rest : (second * 1000000000 + part) % 60000000000 = second * 10 ^ 9 + part := by omega
    rw [if_neg (by omega), if_neg (by omega), if_neg (by omega), if_neg (by omega)]
    dsimp only
    rw [rest, withFraction_of_decimals numeral fraction, if_neg (by omega), if_neg (by omega)]
  | @minutes minuteText whole decimals minute second part minutes range seconds second_le
      fraction =>
    have small := fraction.lt
    generalize number : (minute * 60 + second) * 1000000000 + part = n
    have rest : n % 60000000000 = second * 10 ^ 9 + part := by omega
    have middle : n / 60000000000 % 60 = minute := by omega
    rw [if_neg (by omega), if_neg (by omega), if_neg (by omega), if_neg (by omega)]
    dsimp only
    rw [rest, middle, withFraction_of_decimals seconds fraction, if_neg (by omega),
      if_pos (by omega), minutes.eq_toDigits]
  | @hours hourText minuteText whole decimals hour minute second part hours positive minutes
      minute_le seconds second_le fraction =>
    have small := fraction.lt
    generalize number : ((hour * 60 + minute) * 60 + second) * 1000000000 + part = n
    have rest : n % 60000000000 = second * 10 ^ 9 + part := by omega
    have middle : n / 60000000000 % 60 = minute := by omega
    have front : n / 3600000000000 = hour := by omega
    rw [if_neg (by omega), if_neg (by omega), if_neg (by omega), if_neg (by omega)]
    dsimp only
    rw [rest, middle, front, withFraction_of_decimals seconds fraction, if_pos (by omega),
      minutes.eq_toDigits, hours.eq_toDigits, List.append_assoc, List.cons_append]

/-- **Writing is canonical.** A number of nanoseconds has just one canonical text. -/
theorem writeNanos_eq_iff {cs : List Char} {n : Nat} : writeNanos n = cs ↔ Canonical cs n := by
  constructor
  · rintro rfl
    exact canonical_writeNanos n
  · exact Canonical.writeNanos_eq

/-- A duration is written as a text just when that text is canonical for it. -/
theorem write_eq_iff {d : Duration} {text : String} :
    d.write = text ↔ Canonical text.toList d.nanos := by
  rw [← writeNanos_eq_iff, write, ← String.toList_inj, String.toList_ofList]

/-- **The canonical texts are those that durations are written as.** A text is written for some
duration just when it is canonical and tells no more than `2 ^ 64 - 1` seconds and 999 999 999
nanoseconds. These are also just the texts that are read as a duration which is written so. -/
theorem written_iff_canonical (text : String) :
    ((∃ d : Duration, d.write = text) ↔
        ∃ n, Canonical text.toList n ∧ n ≤ (2 ^ 64 - 1) * 1000000000 + 999999999) ∧
      ((∃ d, read text = .ok d ∧ d.write = text) ↔
        ∃ n, Canonical text.toList n ∧ n ≤ (2 ^ 64 - 1) * 1000000000 + 999999999) := by
  have bound : limit = (2 ^ 64 - 1) * 1000000000 + 999999999 + 1 := by decide
  have written : (∃ d : Duration, d.write = text) ↔
      ∃ n, Canonical text.toList n ∧ n ≤ (2 ^ 64 - 1) * 1000000000 + 999999999 := by
    constructor
    · rintro ⟨d, written⟩
      have short := d.nanos_lt
      exact ⟨d.nanos, write_eq_iff.mp written, by omega⟩
    · rintro ⟨n, canonical, short⟩
      exact ⟨⟨n, by omega⟩, write_eq_iff.mpr canonical⟩
  refine ⟨written, ?_⟩
  rw [← written]
  constructor
  · rintro ⟨d, -, written⟩
    exact ⟨d, written⟩
  · rintro ⟨d, rfl⟩
    exact ⟨d, read_write d, rfl⟩

end ReplicaWatch.Duration
