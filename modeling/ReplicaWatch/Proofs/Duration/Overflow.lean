import Mathlib.Tactic.Positivity
import ReplicaWatch.Duration.Reading

/-! # Numbers of 128 bits on the way

The reader of durations calculates in numbers of 128 bits. It gives up where a sum, a product or the
digits of a whole number outgrow them, and lets the numbers of a fraction stop growing there. None
of this can be seen from outside: eighteen digits of a fraction are far from the end
(`Fraction.ofDigits_eq`), and what outgrows 128 bits on the way to the value of a term is no larger
than that value (`termNanos?_eq`).
-/

namespace ReplicaWatch.Duration

theorem digit_le_nine {c : Char} (decimal : c.isDigit = true) : c.toNat - '0'.toNat ≤ 9 := by
  obtain ⟨_, atMost⟩ := Char.isDigit_iff_toNat.mp decimal
  exact Nat.sub_le_sub_right atMost _

theorem capped_of_lt {n : Nat} (small : n < wideLimit) : capped n = n := by
  unfold capped
  omega

theorem held?_of_lt {n : Nat} (small : n < wideLimit) : held? n = some n := if_pos small

theorem held?_of_le {n : Nat} (large : wideLimit ≤ n) : held? n = none :=
  if_neg (Nat.not_lt.mpr large)

/-- What is held is held as it is. -/
theorem eq_of_held? {n m : Nat} {fault : DurationFault}
    (held : (held? n).elim (.error fault) .ok = Except.ok m) : n = m := by
  by_cases small : n < wideLimit
  · rw [held?_of_lt small] at held
    exact Except.ok.inj held
  · rw [held?_of_le (Nat.le_of_not_lt small)] at held
    cases held

/-- Up to 18 digits the power of ten that a fraction is divided by fits. -/
theorem pow_lt_wideLimit {count : Nat} (short : count ≤ 18) : 10 ^ count < wideLimit :=
  Nat.lt_of_le_of_lt (Nat.pow_le_pow_right (by decide) short) (by decide)

namespace Fraction

/-- Numbers of few digits are not capped. -/
theorem push_eq {part count : Nat} {digit : Char} (decimal : digit.isDigit = true)
    (small : part < 10 ^ count) (short : count < 18) :
    10 * part + (digit.toNat - '0'.toNat) < 10 ^ (count + 1) ∧
      push ⟨part, 10 ^ count⟩ digit =
        ⟨10 * part + (digit.toNat - '0'.toNat), 10 ^ (count + 1)⟩ := by
  have value := digit_le_nine decimal
  have power : 10 ^ (count + 1) < wideLimit := pow_lt_wideLimit short
  rw [pow_succ] at power ⊢
  refine ⟨by omega, ?_⟩
  unfold push
  dsimp only
  rw [capped_of_lt (n := part * 10) (by omega), capped_of_lt (by omega), capped_of_lt power,
    Nat.mul_comm part]

/-- A fraction of up to 18 digits is gathered without being capped. -/
theorem foldl_push {digits : List Char} (decimal : ∀ c ∈ digits, c.isDigit = true)
    {part count : Nat} (small : part < 10 ^ count) (short : count + digits.length ≤ 18) :
    Nat.ofDigitChars 10 digits part < 10 ^ (count + digits.length) ∧
      digits.foldl push ⟨part, 10 ^ count⟩ =
        ⟨Nat.ofDigitChars 10 digits part, 10 ^ (count + digits.length)⟩ := by
  induction digits generalizing part count with
  | nil => exact ⟨small, rfl⟩
  | cons digit digits ih =>
    obtain ⟨first, others⟩ := List.forall_mem_cons.mp decimal
    rw [List.length_cons, Nat.add_comm digits.length, ← Nat.add_assoc] at short ⊢
    obtain ⟨next, pushed⟩ := push_eq first small (by omega)
    rw [Nat.ofDigitChars_cons, List.foldl_cons, pushed]
    exact ih others next short

/-- **No digit is lost.** Neither the number that eighteen digits make nor the power of ten that it
is to be divided by is ever capped. -/
theorem ofDigits_eq {digits : List Char} (decimal : ∀ c ∈ digits, c.isDigit = true) :
    (ofDigits digits).part < 10 ^ 18 ∧
      ofDigits digits =
        ⟨Nat.ofDigitChars 10 (digits.take 18) 0, 10 ^ (digits.take 18).length⟩ := by
  have short : 0 + (digits.take 18).length ≤ 18 := by
    rw [Nat.zero_add]
    exact List.length_take_le 18 digits
  obtain ⟨small, folded⟩ :=
    foldl_push (fun c member => decimal c (List.mem_of_mem_take member)) Nat.one_pos short
  rw [Nat.zero_add] at small folded short
  have whole : ofDigits digits = _ := folded
  rw [whole]
  exact ⟨Nat.lt_of_lt_of_le small (Nat.pow_le_pow_right (by decide) short), rfl⟩

end Fraction

/-- **No overflow on the way.** The reader holds the value of a term just when that fits into 128
bits. -/
theorem termNanos?_eq {whole fraction : List Char} {scale : Nat}
    (decimal : ∀ c ∈ fraction, c.isDigit = true) (positive : 0 < scale)
    (moderate : scale ≤ 3600000000000) :
    termNanos? whole fraction scale =
      held? (Nat.ofDigitChars 10 whole 0 * scale +
        Nat.ofDigitChars 10 (fraction.take 18) 0 * scale / 10 ^ (fraction.take 18).length) := by
  obtain ⟨small, made⟩ := Fraction.ofDigits_eq decimal
  rw [made] at small
  have power : quotient? (Nat.ofDigitChars 10 (fraction.take 18) 0 * scale)
      (10 ^ (fraction.take 18).length) =
        some (Nat.ofDigitChars 10 (fraction.take 18) 0 * scale /
          10 ^ (fraction.take 18).length) := if_neg (by positivity)
  unfold termNanos?
  rw [made]
  dsimp only at small ⊢
  generalize Nat.ofDigitChars 10 (fraction.take 18) 0 = part at small power ⊢
  generalize 10 ^ (fraction.take 18).length = divisor at power ⊢
  generalize Nat.ofDigitChars 10 whole 0 = units
  have scaled : part * scale < wideLimit :=
    calc part * scale ≤ 10 ^ 18 * 3600000000000 := Nat.mul_le_mul small.le moderate
      _ < wideLimit := by decide
  -- The whole number and its product are no larger than the value, and the rest is small.
  by_cases fits : units * scale < wideLimit
  · have few : units < wideLimit := Nat.lt_of_le_of_lt (Nat.le_mul_of_pos_right _ positive) fits
    by_cases nothing : part = 0
    · subst nothing
      simp only [held?_of_lt few, held?_of_lt fits, Option.bind_eq_bind, Option.bind_some,
        Nat.lt_irrefl, if_false, Nat.zero_mul, Nat.zero_div, Nat.add_zero]
    · simp only [held?_of_lt few, held?_of_lt fits, held?_of_lt scaled, power,
        Option.bind_eq_bind, Option.bind_some, if_pos (Nat.pos_of_ne_zero nothing)]
  · have large : wideLimit ≤ units * scale := Nat.le_of_not_lt fits
    rw [held?_of_le (Nat.le_add_right_of_le large)]
    by_cases few : units < wideLimit
    · simp only [held?_of_lt few, held?_of_le large, Option.bind_eq_bind, Option.bind_some,
        Option.bind_none]
    · simp only [held?_of_le (Nat.le_of_not_lt few), Option.bind_eq_bind, Option.bind_none]

end ReplicaWatch.Duration
