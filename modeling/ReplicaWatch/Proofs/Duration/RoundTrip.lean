import ReplicaWatch.Duration.Writing
import ReplicaWatch.Proofs.Duration.Language

/-! # Reading what was written

The canonical text of a duration is a text of terms that are worth just that duration
(`writeNanos_eq_texts`), and nothing in it is blank. So it is read as the duration that was written
(`read_write`). The one thing to see to is a fraction: the zeros that are dropped at its end do not
count (`exists_dropTrailingZeros`), and a fraction in units of `10 ^ width` nanoseconds has no more
than `width` digits, so that all of them do.
-/

namespace ReplicaWatch.Duration

/-! ## Fractions -/

/-- A number is written in digits only. -/
theorem isDigit_of_mem_toDigits {n : Nat} : ∀ c ∈ Nat.toDigits 10 n, c.isDigit = true :=
  fun _ member => Nat.isDigit_of_mem_toDigits (by decide) (by decide) member

theorem isDigit_of_mem_paddedDigits {width n : Nat} :
    ∀ c ∈ paddedDigits width n, c.isDigit = true := by
  intro c member
  rcases List.mem_append.mp member with zero | digit
  · rw [List.eq_of_mem_replicate zero]
    rfl
  · exact isDigit_of_mem_toDigits c digit

/-- Zeros in front do not change the number that is read back. -/
theorem ofDigitChars_paddedDigits (width n : Nat) :
    Nat.ofDigitChars 10 (paddedDigits width n) 0 = n := by
  unfold paddedDigits
  rw [Nat.ofDigitChars_append, Nat.ofDigitChars_replicate_zero, Nat.mul_zero,
    Nat.ofDigitChars_ten_toDigits]

/-- A number that is small enough is padded to the width exactly. -/
theorem length_paddedDigits {width n : Nat} (positive : 0 < width) (small : n < 10 ^ width) :
    (paddedDigits width n).length = width := by
  have digits := (Nat.length_toDigits_le_iff (by decide) positive).mpr small
  simp only [paddedDigits, List.length_append, List.length_replicate]
  omega

/-- What is dropped are zeros. -/
theorem exists_dropTrailingZeros (cs : List Char) :
    ∃ zeros, cs = dropTrailingZeros cs ++ List.replicate zeros '0' := by
  have dropped : ∀ c ∈ cs.reverse.takeWhile (· == '0'), c = '0' := fun c member => by
    simpa using List.mem_takeWhile_imp member
  refine ⟨(cs.reverse.takeWhile (· == '0')).length, ?_⟩
  calc cs = (cs.reverse.takeWhile (· == '0') ++ cs.reverse.dropWhile (· == '0')).reverse := by
        rw [List.takeWhile_append_dropWhile, List.reverse_reverse]
    _ = dropTrailingZeros cs ++ (cs.reverse.takeWhile (· == '0')).reverse := List.reverse_append
    _ = _ := by
        rw [← List.reverse_replicate, ← List.eq_replicate_of_mem dropped]

/-- The digits of a fraction `n / 10 ^ width` without the zeros at its end. -/
theorem fraction_eq {width n : Nat} (positive : 0 < width) (small : n < 10 ^ width) :
    (dropTrailingZeros (paddedDigits width n)).length ≤ width ∧
      Nat.ofDigitChars 10 (dropTrailingZeros (paddedDigits width n)) 0 * 10 ^ width /
        10 ^ (dropTrailingZeros (paddedDigits width n)).length = n := by
  obtain ⟨zeros, split⟩ := exists_dropTrailingZeros (paddedDigits width n)
  have value := ofDigitChars_paddedDigits width n
  have length := length_paddedDigits positive small
  generalize dropTrailingZeros (paddedDigits width n) = kept at split ⊢
  rw [split] at value length
  rw [Nat.ofDigitChars_append, Nat.ofDigitChars_replicate_zero] at value
  rw [List.length_append, List.length_replicate] at length
  constructor
  · omega
  · calc Nat.ofDigitChars 10 kept 0 * 10 ^ width / 10 ^ kept.length
        = Nat.ofDigitChars 10 kept 0 * 10 ^ zeros * 10 ^ kept.length / 10 ^ kept.length := by
          rw [← length, pow_add, Nat.mul_comm (10 ^ kept.length), Nat.mul_assoc]
      _ = Nat.ofDigitChars 10 kept 0 * 10 ^ zeros := Nat.mul_div_cancel _ (by positivity)
      _ = n := by rw [Nat.mul_comm, value]

/-! ## The terms that are written -/

/-- A fraction without its last zeros is still written in digits only. -/
theorem isDigit_of_mem_fraction {width n : Nat} :
    ∀ c ∈ dropTrailingZeros (paddedDigits width n), c.isDigit = true := by
  intro c member
  obtain ⟨zeros, split⟩ := exists_dropTrailingZeros (paddedDigits width n)
  have padded : c ∈ paddedDigits width n := by
    rw [split]
    exact List.mem_append_left _ member
  exact isDigit_of_mem_paddedDigits c padded

/-- The term of a natural number of units. -/
def Term.natural (n : Nat) (unit : TimeUnit) (name : String) (named : name ∈ unit.names) :
    Term where
  whole := Nat.toDigits 10 n
  fraction := none
  unit := unit
  name := name
  whole_digits := isDigit_of_mem_toDigits
  fraction_digits := nofun
  some_digit := .inl Nat.toDigits_ne_nil
  named := named

/-- The term of a number of units with `fraction / 10 ^ width` of a unit behind it. -/
def Term.decimal (whole fraction width : Nat) (unit : TimeUnit) (name : String)
    (named : name ∈ unit.names) : Term where
  whole := Nat.toDigits 10 whole
  fraction := some (dropTrailingZeros (paddedDigits width fraction))
  unit := unit
  name := name
  whole_digits := isDigit_of_mem_toDigits
  fraction_digits := isDigit_of_mem_fraction
  some_digit := .inl Nat.toDigits_ne_nil
  named := named

/-- Such a term is worth that many units. -/
theorem Term.nanos_natural {n : Nat} {unit : TimeUnit} {name : String} (named : name ∈ unit.names) :
    (Term.natural n unit name named).nanos = n * unit.nanos := by
  rw [Term.nanos_eq]
  simp [natural]

/-- A term with a fraction is worth the units and, exactly, the nanoseconds behind the point. -/
theorem Term.nanos_decimal {whole fraction width : Nat} {unit : TimeUnit} {name : String}
    (named : name ∈ unit.names) (scale : unit.nanos = 10 ^ width) (positive : 0 < width)
    (short : width ≤ 18) (small : fraction < 10 ^ width) :
    (Term.decimal whole fraction width unit name named).nanos = whole * 10 ^ width + fraction := by
  obtain ⟨length, value⟩ := fraction_eq positive small
  have kept : (dropTrailingZeros (paddedDigits width fraction)).take 18 =
      dropTrailingZeros (paddedDigits width fraction) :=
    List.take_of_length_le (Nat.le_trans length short)
  rw [Term.nanos_eq]
  simp only [decimal, Option.getD_some, kept, scale, value, Nat.ofDigitChars_ten_toDigits]

/-- A natural number of units is written as a term that is worth it. -/
theorem exists_term_natural (unit : TimeUnit) (name : String) (n : Nat)
    (named : name ∈ unit.names) :
    ∃ term : Term, term.text = Nat.toDigits 10 n ++ name.toList ∧ term.nanos = n * unit.nanos :=
  ⟨.natural n unit name named, rfl, Term.nanos_natural named⟩

/-- A number that is written with a fraction is a term that is worth it. -/
theorem exists_term_withFraction (unit : TimeUnit) (name : String) (width value : Nat)
    (scale : unit.nanos = 10 ^ width) (short : width ≤ 18) (named : name ∈ unit.names) :
    ∃ term : Term, term.text = withFraction value width name.toList ∧ term.nanos = value := by
  have split : value / 10 ^ width * 10 ^ width + value % 10 ^ width = value :=
    Nat.div_add_mod' value (10 ^ width)
  unfold withFraction
  simp only [Nat.pow_eq]
  by_cases integral : value % 10 ^ width = 0
  · refine ⟨.natural (value / 10 ^ width) unit name named, ?_, ?_⟩
    · rw [if_pos integral]
      rfl
    · rw [Term.nanos_natural, scale]
      omega
  · have positive : 0 < width := by
      apply Nat.pos_of_ne_zero
      rintro rfl
      exact integral (Nat.mod_one value)
    have small : value % 10 ^ width < 10 ^ width := Nat.mod_lt _ (by positivity)
    refine ⟨.decimal (value / 10 ^ width) (value % 10 ^ width) width unit name named, ?_, ?_⟩
    · rw [if_neg integral, List.append_assoc]
      rfl
    · rw [Term.nanos_decimal named scale positive short small]
      exact split

/-- From a second on, hours and minutes are written as terms of their own. -/
theorem exists_terms_of_seconds {n : Nat} (long : 1000000000 ≤ n) :
    ∃ terms : List Term, terms ≠ [] ∧ writeNanos n = texts terms ∧ total terms = n := by
  obtain ⟨hour, hourText, hours⟩ :=
    exists_term_natural .hour "h" (n / 3600000000000) (by decide)
  obtain ⟨minute, minuteText, minutes⟩ :=
    exists_term_natural .minute "m" (n / 60000000000 % 60) (by decide)
  obtain ⟨second, secondText, seconds⟩ :=
    exists_term_withFraction .second "s" 9 (n % 60000000000) rfl (by decide) (by decide)
  simp only [TimeUnit.nanos] at hours minutes
  unfold writeNanos
  rw [if_neg (by omega), if_neg (by omega), if_neg (by omega), if_neg (by omega)]
  dsimp only
  rw [show ['s'] = "s".toList from rfl, ← secondText]
  split
  · refine ⟨[hour, minute, second], List.cons_ne_nil _ _, ?_, ?_⟩
    · simp only [texts, List.flatMap_cons, List.flatMap_nil, hourText, minuteText,
        List.append_assoc, List.append_nil]
      rfl
    · simp only [total, List.map_cons, List.map_nil, List.sum_cons, List.sum_nil]
      omega
  · split
    · refine ⟨[minute, second], List.cons_ne_nil _ _, ?_, ?_⟩
      · simp only [texts, List.flatMap_cons, List.flatMap_nil, minuteText, List.append_assoc,
          List.append_nil]
        rfl
      · simp only [total, List.map_cons, List.map_nil, List.sum_cons, List.sum_nil]
        omega
    · refine ⟨[second], List.cons_ne_nil _ _, ?_, ?_⟩
      · simp only [texts, List.flatMap_cons, List.flatMap_nil, List.append_nil]
      · simp only [total, List.map_cons, List.map_nil, List.sum_cons, List.sum_nil]
        omega

/-- What is written of a number is the text of terms that are worth it. -/
theorem writeNanos_eq_texts (n : Nat) :
    ∃ terms : List Term, terms ≠ [] ∧ writeNanos n = texts terms ∧ total terms = n := by
  have single {cs : List Char} (written : ∃ term : Term, term.text = cs ∧ term.nanos = n) :
      ∃ terms : List Term, terms ≠ [] ∧ cs = texts terms ∧ total terms = n := by
    obtain ⟨term, rfl, rfl⟩ := written
    exact ⟨[term], List.cons_ne_nil _ _, by simp [texts], by simp [total]⟩
  by_cases long : 1000000000 ≤ n
  · exact exists_terms_of_seconds long
  · unfold writeNanos
    split
    · next zero =>
      subst zero
      exact single (exists_term_natural .second "s" 0 (by decide))
    · split
      · exact single
          (exists_term_withFraction .nanosecond "ns" 0 n rfl (by decide) (by decide))
      · split
        · exact single
            (exists_term_withFraction .microsecond "\u00b5s" 3 n rfl (by decide) (by decide))
        · rw [if_pos (Nat.lt_of_not_le long)]
          exact single
            (exists_term_withFraction .millisecond "ms" 6 n rfl (by decide) (by decide))

/-! ## Nothing blank -/

/-- No name of a unit has a blank in it. -/
theorem TimeUnit.isBlank_eq_false_of_mem_names {unit : TimeUnit} {name : String}
    (named : name ∈ unit.names) : ∀ c ∈ name.toList, Text.isBlank c = false := by
  have none : name.toList.any Text.isBlank = false := by
    revert name
    cases unit <;> decide
  intro c member
  exact Bool.eq_false_iff.mpr (List.any_eq_false.mp none c member)

/-- Nor has a term, so that trimming takes nothing from a written text. -/
theorem Term.isBlank_eq_false_of_mem_text (term : Term) :
    ∀ c ∈ term.text, Text.isBlank c = false := by
  intro c member
  rcases List.mem_append.mp member with digit | behind
  · exact Text.isBlank_eq_false_of_isDigit (term.whole_digits c digit)
  · rcases List.mem_append.mp behind with pointing | name
    · have digits := term.fraction_digits
      cases fraction : term.fraction with
      | none =>
        rw [fraction] at pointing
        cases pointing
      | some part =>
        rw [fraction] at pointing digits
        rcases List.mem_cons.mp pointing with rfl | digit
        · rfl
        · exact Text.isBlank_eq_false_of_isDigit (digits c digit)
    · exact TimeUnit.isBlank_eq_false_of_mem_names term.named c name

/-- The canonical text of a duration spells its nanoseconds. -/
theorem spells_write (d : Duration) : Spells (Text.trimChars d.write.toList) d.nanos := by
  obtain ⟨terms, some, written, worth⟩ := writeNanos_eq_texts d.nanos
  have plain : ∀ c ∈ texts terms, Text.isBlank c = false := by
    intro c member
    obtain ⟨term, _, shown⟩ := List.mem_flatMap.mp member
    exact term.isBlank_eq_false_of_mem_text c shown
  rw [write, String.toList_ofList, written, Text.trimChars_eq_self plain, ← worth]
  exact .terms some

/-- **Reading what was written.** Every duration is read back from its canonical text. -/
theorem read_write (d : Duration) : read d.write = .ok d := by
  rw [read_of_spells (spells_write d), ofNanos?_nanos]
  rfl

end ReplicaWatch.Duration
