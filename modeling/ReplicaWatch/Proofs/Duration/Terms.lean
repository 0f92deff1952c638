import Mathlib.Algebra.Order.Floor.Semifield
import Mathlib.Data.List.TakeWhile
import Mathlib.Data.Rat.Floor
import ReplicaWatch.Proofs.Duration.Overflow

/-! # The terms of a duration

What a text of terms looks like and what it is worth, said without a reader: a `Term` is a number
in decimal digits with the name of a unit behind it, and is worth that many units, cut to whole
nanoseconds (`Term.nanos`). The reader cuts a text of terms into just these terms
(`RawTerm.split_text`), and whatever it takes for a term is one (`RawTerm.exists_term`). So the
sum of a text is the sum of its terms, unless that outgrows 128 bits
(`sumTerms_texts`, `exists_terms_of_sumTerms`).
-/

namespace ReplicaWatch.Duration

/-- The units that a duration may be written in. -/
inductive TimeUnit where
  | nanosecond
  | microsecond
  | millisecond
  | second
  | minute
  | hour

namespace TimeUnit

/-- The nanoseconds in a unit. -/
def nanos : TimeUnit → Nat
  | .nanosecond => 1
  | .microsecond => 1000
  | .millisecond => 1000000
  | .second => 1000000000
  | .minute => 60 * 1000000000
  | .hour => 60 * 60 * 1000000000

/-- The names of a unit. A microsecond has three, two of which look alike. -/
def names : TimeUnit → List String
  | .nanosecond => ["ns"]
  | .microsecond => ["us", "\u00b5s", "\u03bcs"]
  | .millisecond => ["ms"]
  | .second => ["s"]
  | .minute => ["m"]
  | .hour => ["h"]

theorem nanos_pos (unit : TimeUnit) : 0 < unit.nanos := by
  cases unit <;> decide

/-- No unit is longer than an hour. -/
theorem nanos_le (unit : TimeUnit) : unit.nanos ≤ 3600000000000 := by
  cases unit <;> decide

variable {unit : TimeUnit} {name : String}

/-- The reader knows just the names of the units, and what each is worth. -/
theorem unitNanos?_eq_some_iff {scale : Nat} :
    unitNanos? name = some scale ↔ ∃ unit : TimeUnit, name ∈ unit.names ∧ scale = unit.nanos := by
  constructor
  · intro found
    unfold unitNanos? at found
    split at found <;> cases found
    · exact ⟨.nanosecond, by decide, rfl⟩
    · exact ⟨.microsecond, by decide, rfl⟩
    · exact ⟨.microsecond, by decide, rfl⟩
    · exact ⟨.microsecond, by decide, rfl⟩
    · exact ⟨.millisecond, by decide, rfl⟩
    · exact ⟨.second, by decide, rfl⟩
    · exact ⟨.minute, by decide, rfl⟩
    · exact ⟨.hour, by decide, rfl⟩
  · rintro ⟨unit, named, rfl⟩
    revert name
    cases unit <;> decide

/-- Nothing in the name of a unit could belong to a number. -/
theorem isUnitChar_of_mem_names (named : name ∈ unit.names) :
    ∀ c ∈ name.toList, isUnitChar c = true := by
  have all : name.toList.all isUnitChar = true := by
    revert name
    cases unit <;> decide
  exact List.all_eq_true.mp all

theorem toList_ne_nil_of_mem_names (named : name ∈ unit.names) : name.toList ≠ [] := by
  revert name
  cases unit <;> decide

end TimeUnit

/-- A point with digits behind it, if there is one. -/
def pointed : Option (List Char) → List Char
  | none => []
  | some digits => '.' :: digits

/-- A term: digits, perhaps a point with more of them behind it, and the name of a unit. There is a
digit before the point or behind it. -/
structure Term where
  whole : List Char
  /-- The digits behind the point, if there is one. -/
  fraction : Option (List Char)
  unit : TimeUnit
  name : String
  whole_digits : ∀ c ∈ whole, c.isDigit = true
  fraction_digits : ∀ c ∈ fraction.getD [], c.isDigit = true
  some_digit : whole ≠ [] ∨ fraction.getD [] ≠ []
  named : name ∈ unit.names

namespace Term

/-- The text of a term. -/
def text (term : Term) : List Char :=
  term.whole ++ (pointed term.fraction ++ term.name.toList)

/-- The number in a term. Of its fraction eighteen digits count. -/
def number (term : Term) : ℚ :=
  let kept := (term.fraction.getD []).take 18
  Nat.ofDigitChars 10 term.whole 0 + Nat.ofDigitChars 10 kept 0 / 10 ^ kept.length

/-- What a term is worth, cut to whole nanoseconds. -/
def nanos (term : Term) : Nat := ⌊term.number * term.unit.nanos⌋₊

/-- Whole and fraction can be cut apart, as the whole part of a term is worth whole nanoseconds. -/
theorem nanos_eq (term : Term) :
    term.nanos = Nat.ofDigitChars 10 term.whole 0 * term.unit.nanos +
      Nat.ofDigitChars 10 ((term.fraction.getD []).take 18) 0 * term.unit.nanos /
        10 ^ ((term.fraction.getD []).take 18).length := by
  unfold nanos number
  dsimp only
  generalize (term.fraction.getD []).take 18 = kept
  generalize Nat.ofDigitChars 10 term.whole 0 = whole
  generalize Nat.ofDigitChars 10 kept 0 = part
  have split : ((whole : ℚ) + part / 10 ^ kept.length) * term.unit.nanos =
      ((part * term.unit.nanos : ℕ) : ℚ) / ((10 ^ kept.length : ℕ) : ℚ) +
        ((whole * term.unit.nanos : ℕ) : ℚ) := by
    push_cast
    ring
  rw [split, Nat.floor_add_natCast (by positivity), Nat.floor_div_eq_div, Nat.add_comm]

/-- The reader holds what a term is worth, if that fits into 128 bits. -/
theorem termNanos?_eq_held? (term : Term) :
    termNanos? term.whole (term.fraction.getD []) term.unit.nanos = held? term.nanos := by
  rw [term.nanos_eq]
  exact termNanos?_eq term.fraction_digits term.unit.nanos_pos term.unit.nanos_le

end Term

/-- What belongs to the name of a unit is neither a digit nor a point. -/
theorem isUnitChar_iff {c : Char} : isUnitChar c = true ↔ c.isDigit = false ∧ c ≠ '.' := by
  simp only [isUnitChar, Bool.not_eq_true', Bool.or_eq_false_iff, beq_eq_false_iff_ne]

/-- A text that does not go on with the name of a unit: the next number begins, or nothing. -/
def Breaks (cs : List Char) : Prop := ∀ c ∈ cs.head?, isUnitChar c = false

/-- A text is cut behind its longest front with a property. -/
theorem takeWhile_dropWhile_append {p : Char → Bool} {xs cs : List Char}
    (all : ∀ c ∈ xs, p c = true) (stops : ∀ c ∈ cs.head?, p c = false) :
    (xs ++ cs).takeWhile p = xs ∧ (xs ++ cs).dropWhile p = cs := by
  rw [List.takeWhile_append_of_pos all, List.dropWhile_append_of_pos all]
  cases cs with
  | nil => simp
  | cons c cs => simp [stops c rfl]

namespace Term

variable (term : Term) (cs : List Char)

/-- Behind its number a term goes on with the name of its unit. -/
theorem isUnitChar_head :
    ∀ c ∈ (term.name.toList ++ cs).head?, isUnitChar c = true := by
  intro c head
  rw [List.head?_append_of_ne_nil _ (TimeUnit.toList_ne_nil_of_mem_names term.named)] at head
  exact TimeUnit.isUnitChar_of_mem_names term.named c (List.mem_of_head? head)

/-- A term begins with a digit or a point. -/
theorem breaks_text : Breaks (term.text ++ cs) := by
  intro c head
  have unlike (start : c.isDigit = true ∨ c = '.') : isUnitChar c = false := by
    rcases start with digit | rfl
    · simp [isUnitChar, digit]
    · rfl
  apply unlike
  by_cases empty : term.whole = []
  · have digits := term.some_digit.resolve_left (not_not_intro empty)
    rw [text, empty] at head
    cases fraction : term.fraction with
    | none => simp [fraction] at digits
    | some part =>
      rw [fraction] at head
      cases head
      exact .inr rfl
  · rw [text, List.append_assoc, List.head?_append_of_ne_nil _ empty] at head
    exact .inl (term.whole_digits c (List.mem_of_head? head))

theorem text_ne_nil : term.text ≠ [] := by
  have name := TimeUnit.toList_ne_nil_of_mem_names term.named
  unfold text
  exact List.append_ne_nil_of_right_ne_nil _ (List.append_ne_nil_of_right_ne_nil _ name)

end Term

/-- In front of a unit there is no fraction left to be cut off. -/
theorem splitFraction_of_isUnitChar {cs : List Char} (head : ∀ c ∈ cs.head?, isUnitChar c = true) :
    splitFraction cs = ([], cs) := by
  unfold splitFraction
  split
  · exact absurd rfl (isUnitChar_iff.mp (head '.' rfl)).2
  · rfl

/-- A fraction is cut off as it was written. -/
theorem splitFraction_text (term : Term) (cs : List Char) :
    splitFraction (pointed term.fraction ++ (term.name.toList ++ cs)) =
      (term.fraction.getD [], term.name.toList ++ cs) := by
  have digits := term.fraction_digits
  unfold pointed
  cases fraction : term.fraction with
  | none => exact splitFraction_of_isUnitChar (term.isUnitChar_head cs)
  | some part =>
    rw [fraction] at digits
    obtain ⟨taken, dropped⟩ := takeWhile_dropWhile_append digits fun c head =>
      (isUnitChar_iff.mp (term.isUnitChar_head cs c head)).1
    exact Prod.ext taken dropped

/-- What is cut off as a fraction was written as one. -/
theorem exists_pointed (cs : List Char) :
    ∃ fraction, fraction.getD [] = (splitFraction cs).1 ∧
      cs = pointed fraction ++ (splitFraction cs).2 := by
  unfold splitFraction
  split
  · next tail =>
    exact ⟨some (tail.takeWhile Char.isDigit), rfl,
      congrArg ('.' :: ·) List.takeWhile_append_dropWhile.symm⟩
  · exact ⟨none, rfl, rfl⟩

/-- A fraction is made of digits. -/
theorem isDigit_of_mem_splitFraction {cs : List Char} {c : Char}
    (member : c ∈ (splitFraction cs).1) : c.isDigit = true := by
  unfold splitFraction at member
  split at member
  · exact List.mem_takeWhile_imp member
  · cases member

namespace RawTerm

/-- **Cutting off a term.** The reader cuts a term apart as it was put together, and off from what
is behind it. -/
theorem split_text (term : Term) {cs : List Char} (breaks : Breaks cs) :
    split (term.text ++ cs) =
      ⟨term.whole, term.fraction.getD [], term.name.toList, cs⟩ := by
  have behind : term.text ++ cs =
      term.whole ++ (pointed term.fraction ++ (term.name.toList ++ cs)) := by
    simp only [Term.text, List.append_assoc]
  have stops : ∀ c ∈ (pointed term.fraction ++ (term.name.toList ++ cs)).head?,
      c.isDigit = false := by
    unfold pointed
    cases term.fraction with
    | none => exact fun c head => (isUnitChar_iff.mp (term.isUnitChar_head cs c head)).1
    | some part =>
      rintro c ⟨⟩
      rfl
  obtain ⟨whole, rest⟩ := takeWhile_dropWhile_append term.whole_digits stops
  obtain ⟨name, later⟩ :=
    takeWhile_dropWhile_append (TimeUnit.isUnitChar_of_mem_names term.named) breaks
  unfold split
  rw [behind, whole, rest, splitFraction_text]
  dsimp only
  rw [name, later]

/-- The reader finds in front of a text what its first term is worth, if that fits. -/
theorem nanos_split_text (term : Term) {cs : List Char} (breaks : Breaks cs) :
    (split (term.text ++ cs)).nanos = (held? term.nanos).elim (.error .outOfRange) .ok := by
  rw [split_text term breaks]
  unfold nanos
  have digit : ¬(term.whole.isEmpty && (term.fraction.getD []).isEmpty) = true := by
    simp only [Bool.and_eq_true, List.isEmpty_iff, not_and_or]
    exact term.some_digit
  have unit : ¬term.name.toList.isEmpty = true := by
    rw [List.isEmpty_iff]
    exact TimeUnit.toList_ne_nil_of_mem_names term.named
  rw [if_neg digit, if_neg unit, String.ofList_toList,
    TimeUnit.unitNanos?_eq_some_iff.mpr ⟨term.unit, term.named, rfl⟩]
  dsimp only
  rw [term.termNanos?_eq_held?]

/-- **What is taken for a term is one.** -/
theorem exists_term {cs : List Char} {n : Nat} (read : (split cs).nanos = .ok n) :
    ∃ term : Term, cs = term.text ++ (split cs).rest ∧ n = term.nanos := by
  obtain ⟨fraction, digits, pointing⟩ := exists_pointed (cs.dropWhile Char.isDigit)
  unfold nanos at read
  split at read
  · cases read
  · next digit =>
    split at read
    · cases read
    · split at read
      · cases read
      · next scale found =>
        obtain ⟨unit, named, rfl⟩ := TimeUnit.unitNanos?_eq_some_iff.mp found
        let term : Term :=
          { whole := (split cs).whole
            fraction := fraction
            unit := unit
            name := String.ofList (split cs).unit
            whole_digits := fun c member => List.mem_takeWhile_imp member
            fraction_digits := fun c member =>
              isDigit_of_mem_splitFraction (digits ▸ member)
            some_digit := by
              simp only [Bool.and_eq_true, List.isEmpty_iff, not_and_or] at digit
              rw [digits]
              exact digit
            named := named }
        refine ⟨term, ?_, ?_⟩
        · have number : cs = (split cs).whole ++ cs.dropWhile Char.isDigit :=
            List.takeWhile_append_dropWhile.symm
          have unit : (splitFraction (cs.dropWhile Char.isDigit)).2 =
              (split cs).unit ++ (split cs).rest := List.takeWhile_append_dropWhile.symm
          rw [unit, ← List.append_assoc] at pointing
          have name : term.name.toList = (split cs).unit := String.toList_ofList
          rw [pointing, ← List.append_assoc, ← name] at number
          exact number
        · have digits : term.fraction.getD [] = (split cs).fraction := digits
          have held := term.termNanos?_eq_held?
          rw [digits] at held
          change (termNanos? term.whole (split cs).fraction term.unit.nanos).elim _ _ = _ at read
          rw [held] at read
          exact (eq_of_held? read).symm

end RawTerm

/-! ## Texts of terms -/

/-- The text of some terms, one behind the other. -/
def texts (terms : List Term) : List Char := terms.flatMap Term.text

/-- What terms are worth together. -/
def total (terms : List Term) : Nat := (terms.map Term.nanos).sum

/-- A text of terms does not begin with the name of a unit. -/
theorem breaks_texts (terms : List Term) : Breaks (texts terms) := by
  cases terms with
  | nil => rintro c ⟨⟩
  | cons term terms => exact term.breaks_text (texts terms)

/-- A term that cannot be read ends the sum. -/
theorem sumTerms_of_error {start : Nat} {fault : DurationFault} {cs : List Char} (some : cs ≠ [])
    (read : (RawTerm.split cs).nanos = .error fault) : sumTerms start cs = .error fault := by
  rw [sumTerms, if_neg (by simpa using some)]
  split
  · next refused => rw [read] at refused; cases refused; rfl
  · next found => rw [read] at found; cases found

/-- A term that can be read is added, if the sum still fits. -/
theorem sumTerms_of_ok {start n : Nat} {cs : List Char} (some : cs ≠ [])
    (read : (RawTerm.split cs).nanos = .ok n) :
    sumTerms start cs =
      if start + n < wideLimit then sumTerms (start + n) (RawTerm.split cs).rest
      else .error .outOfRange := by
  rw [sumTerms, if_neg (by simpa using some)]
  split
  · next refused => rw [read] at refused; cases refused
  · next found => rw [read] at found; cases found; rfl

/-- The reader sums up terms, if all of them together fit. -/
theorem sumTerms_texts (terms : List Term) {start : Nat} (small : start < wideLimit) :
    sumTerms start (texts terms) =
      if start + total terms < wideLimit then .ok (start + total terms)
      else .error .outOfRange := by
  induction terms generalizing start with
  | nil =>
    rw [texts, List.flatMap_nil, sumTerms]
    exact (if_pos small).symm
  | cons term terms ih =>
    have more : total (term :: terms) = term.nanos + total terms := List.sum_cons
    have front : texts (term :: terms) = term.text ++ texts terms := List.flatMap_cons
    have some : term.text ++ texts terms ≠ [] :=
      List.append_ne_nil_of_left_ne_nil term.text_ne_nil _
    have read := RawTerm.nanos_split_text term (breaks_texts terms)
    rw [more, front, ← Nat.add_assoc]
    by_cases large : wideLimit ≤ term.nanos
    · rw [held?_of_le large] at read
      rw [sumTerms_of_error some read, if_neg (by omega)]
    · rw [held?_of_lt (Nat.lt_of_not_le large)] at read
      rw [sumTerms_of_ok some read, RawTerm.split_text term (breaks_texts terms)]
      by_cases fits : start + term.nanos < wideLimit
      · rw [if_pos fits]
        exact ih fits
      · rw [if_neg fits, if_neg (by omega)]

/-- What can be summed up is the text of some terms, and the sum is what they are worth together. -/
theorem exists_terms_of_sumTerms {start n : Nat} {cs : List Char}
    (read : sumTerms start cs = .ok n) :
    ∃ terms : List Term, cs = texts terms ∧ n = start + total terms := by
  fun_induction sumTerms start cs with
  | case1 start cs empty =>
    cases read
    exact ⟨[], List.isEmpty_iff.mp empty, rfl⟩
  | case2 => cases read
  | case3 start cs _ value valued _ ih =>
    obtain ⟨term, front, rfl⟩ := RawTerm.exists_term valued
    obtain ⟨terms, rest, rfl⟩ := ih read
    refine ⟨term :: terms, ?_, ?_⟩
    · rw [rest] at front
      exact front
    · exact Nat.add_assoc _ _ _
  | case4 => cases read

end ReplicaWatch.Duration
