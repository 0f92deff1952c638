import ReplicaWatch.Json.Reading
import ReplicaWatch.Json.Writing
import ReplicaWatch.Proofs.Duration.Canonical

/-! # Reading what was written as JSON

A value whose numbers are integers is read back from its text (`Json.read?_write`). The text of a
value ends where it has to: in an array or an object only a comma or a closing bracket stands behind
it (`Json.Follows`), neither of which a numeral goes on with. In a text each escape is read as the
one character that was escaped, and since no character is a surrogate, none is joined with another
(`Json.joinSurrogates_map`).
-/

namespace ReplicaWatch.Json

/-! ## Texts -/

/-- The four digits that a control character is escaped with give its code point back. -/
theorem hexNumber?_escape {n : Nat} (small : n < 0x20) :
    Text.hexNumber? ['0', '0', Text.hexDigit (n / 16), Text.hexDigit (n % 16)] = some n := by
  have zero : Text.hexValue? '0' = some 0 := rfl
  have high := Text.hexValue?_hexDigit (n := n / 16) (by omega)
  have low := Text.hexValue?_hexDigit (n := n % 16) (by omega)
  simp [Text.hexNumber?, zero, high, low]
  omega

/-- A character is read back from how it is written in a text. -/
theorem readCodePoints_escape (c : Char) (cs : List Char) :
    readCodePoints (escape c ++ cs) =
      (readCodePoints cs).map fun read => (c.toNat :: read.1, read.2) := by
  unfold escape
  split
  case h_8 =>
    split
    · next control =>
      simp only [List.cons_append, List.nil_append, readCodePoints, hexNumber?_escape control]
      cases readCodePoints cs <;> rfl
    · next printed =>
      rw [List.singleton_append, readCodePoints]
      · rw [if_neg printed]
        cases readCodePoints cs <;> rfl
      all_goals simp_all
  all_goals
    rw [List.cons_append, List.singleton_append, readCodePoints]
    · cases readCodePoints cs <;> rfl
    · intro a b d e rest same
      exact absurd same (by decide)

/-- A text is read back up to the quote that ends it. -/
theorem readCodePoints_written (cs rest : List Char) :
    readCodePoints (cs.flatMap escape ++ '"' :: rest) = some (cs.map Char.toNat, rest) := by
  induction cs with
  | nil => rfl
  | cons c cs ih =>
    rw [List.flatMap_cons, List.append_assoc, readCodePoints_escape, ih]
    rfl

/-- No character is a half of a surrogate pair, so none is joined with the next. -/
theorem not_surrogate (c : Char) : ¬(0xD800 ≤ c.toNat ∧ c.toNat < 0xE000) := by
  have valid := c.valid
  have code : c.val.toNat = c.toNat := rfl
  simp only [UInt32.isValidChar, Nat.isValidChar, code] at valid
  omega

/-- Characters are no surrogates, so none of them is joined with another. -/
theorem joinSurrogates_map (cs : List Char) : joinSurrogates (cs.map Char.toNat) = some cs := by
  induction cs with
  | nil => rfl
  | cons c cs ih =>
    have alone := not_surrogate c
    cases cs with
    | nil => rw [List.map_singleton, joinSurrogates, if_neg alone, Char.ofNat_toNat]
    | cons d cs =>
      rw [List.map_cons] at ih
      rw [List.map_cons, List.map_cons, joinSurrogates, if_neg (by omega), if_neg (by omega), ih,
        Option.map_some, Char.ofNat_toNat]

/-- A text is read behind its opening quote. -/
theorem readText_written (content : Option String) (rest : List Char) :
    ∃ text, writeText content = '"' :: text ∧ readText (text ++ rest) = some (content, rest) := by
  cases content with
  | none => exact ⟨_, rfl, rfl⟩
  | some s =>
    refine ⟨_, rfl, ?_⟩
    rw [readText, List.append_assoc, List.singleton_append, readCodePoints_written]
    simp only [joinSurrogates_map, Option.map_some, String.ofList_toList]

/-! ## Numbers -/

/-- A text in which no numeral goes on. -/
def Stops (rest : List Char) : Prop :=
  ∀ c ∈ rest.head?, c.isDigit = false ∧ c ≠ '.' ∧ c ≠ 'e' ∧ c ≠ 'E'

variable {rest : List Char}

theorem Stops.takeWhile_eq (stops : Stops rest) : rest.takeWhile Char.isDigit = [] := by
  cases rest with
  | nil => rfl
  | cons c rest =>
    have other := (stops c rfl).1
    exact List.takeWhile_cons_of_neg (by simp [other])

theorem Stops.dropWhile_eq (stops : Stops rest) : rest.dropWhile Char.isDigit = rest := by
  cases rest with
  | nil => rfl
  | cons c rest =>
    have other := (stops c rfl).1
    exact List.dropWhile_cons_of_neg (by simp [other])

/-- The digits of a number are read back in front of any text that does not go on with them. -/
theorem readWhole_toDigits (n : Nat) (stops : Stops rest) :
    readWhole (Nat.toDigits 10 n ++ rest) = some (Nat.toDigits 10 n, rest) := by
  have numeral := Duration.numeral_toDigits n
  by_cases zero : (Nat.toDigits 10 n).head? = some '0'
  · rw [numeral.leading zero]
    rfl
  · rw [readWhole]
    · rw [List.takeWhile_append_of_pos numeral.digits, List.dropWhile_append_of_pos numeral.digits,
        stops.takeWhile_eq, stops.dropWhile_eq, List.append_nil,
        if_neg (by simp [numeral.ne_nil])]
    · intro others starts
      obtain ⟨first, digits, shape⟩ := List.exists_cons_of_ne_nil numeral.ne_nil
      rw [shape, List.cons_append, List.cons.injEq] at starts
      rw [shape, starts.1] at zero
      exact zero rfl

/-- No fraction is read where a number stops. -/
theorem readFraction_stops (stops : Stops rest) : readFraction rest = some ([], rest) := by
  rw [readFraction]
  rintro others rfl
  exact (stops '.' rfl).2.1 rfl

/-- No exponent is read where a number stops. -/
theorem readExponent_stops (stops : Stops rest) : readExponent rest = some ([], rest) := by
  match rest with
  | [] => rfl
  | [c] =>
    rw [readExponent, if_neg]
    exact fun mark => mark.elim (stops c rfl).2.2.1 (stops c rfl).2.2.2
  | c :: sign :: rest =>
    rw [readExponent, if_neg]
    exact fun mark => mark.elim (stops c rfl).2.2.1 (stops c rfl).2.2.2

/-- A number without a sign is read back, whichever sign it is to have. -/
theorem readUnsigned_toDigits (negative : Bool) (n : Nat) (stops : Stops rest) :
    readUnsigned negative (Nat.toDigits 10 n ++ rest) =
      some (numeralOf negative (Nat.toDigits 10 n) [] [], rest) := by
  simp only [readUnsigned, readWhole_toDigits n stops, readFraction_stops stops,
    readExponent_stops stops]

/-- A numeral starts with a digit or with a minus sign. -/
theorem exists_writeNumeral (value : Int) :
    ∃ c cs, writeNumeral (.integer value) = c :: cs ∧ (c.isDigit = true ∨ c = '-') := by
  cases value with
  | ofNat n =>
    have numeral := Duration.numeral_toDigits n
    obtain ⟨first, digits, shape⟩ := List.exists_cons_of_ne_nil numeral.ne_nil
    exact ⟨first, digits, shape, .inl (numeral.digits first (by simp [shape]))⟩
  | negSucc n => exact ⟨'-', _, rfl, .inr rfl⟩

/-- An integer is read back in front of any text that does not go on with it. -/
theorem readNumber_writeNumeral (value : Int) (stops : Stops rest) :
    readNumber (writeNumeral (.integer value) ++ rest) = some (.integer value, rest) := by
  cases value with
  | ofNat n =>
    change readNumber (Nat.toDigits 10 n ++ rest) = _
    have unsigned : ∀ others, Nat.toDigits 10 n ++ rest = '-' :: others → False := by
      intro others starts
      have numeral := Duration.numeral_toDigits n
      obtain ⟨first, digits, shape⟩ := List.exists_cons_of_ne_nil numeral.ne_nil
      rw [shape, List.cons_append, List.cons.injEq] at starts
      have digit := numeral.digits first (by simp [shape])
      rw [starts.1] at digit
      cases digit
    rw [readNumber.eq_2 _ unsigned, readUnsigned_toDigits false n stops]
    simp [numeralOf]
  | negSucc n =>
    change readNumber ('-' :: (Nat.toDigits 10 (n + 1) ++ rest)) = _
    have positive : Nat.toDigits 10 (n + 1) ≠ ['0'] := by
      intro zero
      have value := (Duration.numeral_toDigits (n + 1)).value
      rw [zero] at value
      cases value
    rw [readNumber, readUnsigned_toDigits true (n + 1) stops]
    simp [numeralOf, positive]
    omega

/-! ## Values -/

/-- A value in which every number is an integer. -/
inductive Integral : Json → Prop
  | null : Integral .null
  | bool (b : Bool) : Integral (.bool b)
  | number (n : Int) : Integral (.number (.integer n))
  | text (content : Option String) : Integral (.text content)
  | array (items : List Json) (each : ∀ item ∈ items, Integral item) : Integral (.array items)
  | object (fields : List (Option String × Json)) (each : ∀ field ∈ fields, Integral field.2) :
    Integral (.object fields)

theorem Integral.string (s : String) : Integral (.string s) := .text (some s)

theorem Integral.natural (n : Nat) : Integral (.natural n) := .number n

/-- A record of integral values is integral. -/
theorem Integral.record {fields : List (String × Json)}
    (each : ∀ field ∈ fields, Integral field.2) : Integral (.record fields) := by
  refine .object _ fun field member => ?_
  obtain ⟨named, inside, rfl⟩ := List.mem_map.mp member
  exact each named inside

/-- What may be missing is integral when it is so where it is there. -/
theorem Integral.nullable {α : Type} {form : α → Json} (each : ∀ a, Integral (form a)) :
    ∀ a?, Integral (.nullable form a?)
  | none => .null
  | some a => each a

/-- What may stand behind a value. -/
def Follows (rest : List Char) : Prop := ∀ c ∈ rest.head?, c = ',' ∨ c = ']' ∨ c = '\x7d'

/-- A number stops in front of all that may follow a value. -/
theorem Follows.stops (follows : Follows rest) : Stops rest := by
  intro c first
  obtain rfl | rfl | rfl := follows c first <;> decide

theorem skipBlanks_of_follows (follows : Follows rest) : skipBlanks rest = rest := by
  cases rest with
  | nil => rfl
  | cons c rest =>
    apply List.dropWhile_cons_of_neg
    obtain rfl | rfl | rfl := follows c rfl <;> decide

/-- What closes an array, or goes on with it, may follow an item. -/
theorem follows_writeItems (items : List Json) (rest : List Char) :
    Follows (writeItems items ++ rest) := by
  intro c first
  cases items <;> cases first <;> decide

/-- What closes an object, or goes on with it, may follow a field. -/
theorem follows_writeFields (fields : List (Option String × Json)) (rest : List Char) :
    Follows (writeFields fields ++ rest) := by
  intro c first
  cases fields <;> cases first <;> decide

/-- A value starts with no blank, and not as the end of an array. -/
theorem Integral.starts {value : Json} (integral : Integral value) :
    ∃ c cs, value.writeChars = c :: cs ∧ c ≠ ']' ∧
      ∀ rest, skipBlanks (c :: rest) = c :: rest := by
  have solid {c : Char} {cs : List Char} (shape : value.writeChars = c :: cs)
      (printed : c ≠ ']' ∧ c ≠ ' ' ∧ c ≠ '\t' ∧ c ≠ '\n' ∧ c ≠ '\r') :
      ∃ c cs, value.writeChars = c :: cs ∧ c ≠ ']' ∧
        ∀ rest, skipBlanks (c :: rest) = c :: rest := by
    refine ⟨c, cs, shape, printed.1, fun rest => ?_⟩
    exact List.dropWhile_cons_of_neg (by simp [printed])
  cases integral with
  | null => exact solid rfl (by decide)
  | bool b => cases b <;> exact solid rfl (by decide)
  | number n =>
    obtain ⟨c, cs, shape, starts⟩ := exists_writeNumeral n
    refine solid shape ?_
    obtain digit | rfl := starts
    · refine ⟨?_, ?_, ?_, ?_, ?_⟩ <;> (rintro rfl; cases digit)
    · decide
  | text content =>
    obtain ⟨text, shape, -⟩ := readText_written content []
    exact solid shape (by decide)
  | array items => cases items <;> exact solid rfl (by decide)
  | object fields => cases fields <;> exact solid rfl (by decide)

/-- What starts like a number is read as one. -/
theorem readValue_numeral (bound : Nat) {c : Char} {cs : List Char} {numeral : Numeral}
    (starts : c.isDigit = true ∨ c = '-') (read : readNumber (c :: cs) = some (numeral, rest)) :
    readValue (bound + 1) (c :: cs) = some (.number numeral, rest) := by
  rw [readValue]
  · rw [read]
  all_goals
    intro others same
    obtain ⟨rfl, -⟩ := List.cons.inj same
    obtain digit | sign := starts
    · cases digit
    · cases sign

/-- A written value does not start with a blank. -/
theorem Integral.skipBlanks_eq {value : Json} (integral : Integral value) (rest : List Char) :
    skipBlanks (value.writeChars ++ rest) = value.writeChars ++ rest := by
  obtain ⟨c, cs, shape, -, solid⟩ := integral.starts
  rw [shape, List.cons_append, solid]

/-- A value is read back in front of whatever may follow it. -/
def ReadBack (value : Json) : Prop :=
  ∀ bound rest, value.writeChars.length ≤ bound → Follows rest →
    readValue bound (value.writeChars ++ rest) = some (value, rest)

/-- The items of an array are read back one by one. -/
theorem readItems_written {item : Json} {items : List Json}
    (each : ∀ i ∈ item :: items, Integral i ∧ ReadBack i) {bound : Nat}
    (enough : (item.writeChars ++ writeItems items).length ≤ bound) (rest : List Char) :
    readItems bound (item.writeChars ++ (writeItems items ++ rest)) =
      some (item :: items, rest) := by
  induction items generalizing item bound with
  | nil =>
    simp only [writeItems, List.length_append, List.length_singleton] at enough
    obtain ⟨bound, rfl⟩ := Nat.exists_eq_add_of_le' (show 1 ≤ bound by omega)
    have read := (each item List.mem_cons_self).2 bound _ (by omega) (follows_writeItems [] rest)
    have ends := skipBlanks_of_follows (follows_writeItems [] rest)
    simp only [readItems, read, ends]
    rfl
  | cons next items ih =>
    obtain ⟨own, each⟩ := List.forall_mem_cons.mp each
    simp only [List.length_append, writeItems, List.length_cons] at enough
    obtain ⟨bound, rfl⟩ := Nat.exists_eq_add_of_le' (show 1 ≤ bound by omega)
    have read := own.2 bound _ (by omega) (follows_writeItems (next :: items) rest)
    have goes := skipBlanks_of_follows (follows_writeItems (next :: items) rest)
    have solid := (each next List.mem_cons_self).1.skipBlanks_eq
    have others := @ih next each bound (by rw [List.length_append]; omega)
    simp only [readItems, read, goes]
    simp only [writeItems, List.cons_append, List.append_assoc, solid, others]

/-- An array is read back when its items are. -/
theorem readBack_array {items : List Json} (each : ∀ i ∈ items, Integral i ∧ ReadBack i) :
    ReadBack (.array items) := by
  intro bound rest enough _
  obtain ⟨bound, rfl⟩ := Nat.exists_eq_add_of_le' (show 1 ≤ bound by
    cases items <;> exact Nat.one_le_of_lt enough)
  cases items with
  | nil => rfl
  | cons item items =>
    obtain ⟨c, cs, shape, inside, solid⟩ := (each item List.mem_cons_self).1.starts
    have read := readItems_written each (Nat.le_of_succ_le_succ enough) rest
    rw [shape, List.cons_append] at read
    simp only [writeChars, List.cons_append, List.append_assoc, readValue, shape, solid]
    split
    · next same => exact absurd (List.cons.inj same).1 inside
    · rw [read]

/-- A field is read up to what follows it: the name behind its quote, and the value behind the
colon. -/
theorem readField_written (name : Option String) {value : Json} (integral : Integral value)
    (back : ReadBack value) {bound : Nat} (enough : value.writeChars.length ≤ bound)
    (follows : Follows rest) :
    ∃ text, writeText name = '"' :: text ∧
      readText (text ++ ':' :: (value.writeChars ++ rest)) =
        some (name, ':' :: (value.writeChars ++ rest)) ∧
      readValue bound (skipBlanks (value.writeChars ++ rest)) = some (value, rest) := by
  obtain ⟨text, quoted, named⟩ := readText_written name (':' :: (value.writeChars ++ rest))
  exact ⟨text, quoted, named, by rw [integral.skipBlanks_eq, back bound rest enough follows]⟩

/-- The fields of an object are read back one by one. -/
theorem readFields_written {name : Option String} {value : Json}
    {fields : List (Option String × Json)} (own : Integral value ∧ ReadBack value)
    (each : ∀ field ∈ fields, Integral field.2 ∧ ReadBack field.2) {bound : Nat}
    (enough : (writeText name ++ ':' :: (value.writeChars ++ writeFields fields)).length ≤ bound)
    (rest : List Char) :
    readFields bound
        (writeText name ++ ':' :: (value.writeChars ++ (writeFields fields ++ rest))) =
      some ((name, value) :: fields, rest) := by
  have colon (cs : List Char) : skipBlanks (':' :: cs) = ':' :: cs := rfl
  have quote (cs : List Char) : skipBlanks ('"' :: cs) = '"' :: cs := rfl
  induction fields generalizing name value bound with
  | nil =>
    simp only [List.length_append, List.length_cons] at enough
    obtain ⟨bound, rfl⟩ := Nat.exists_eq_add_of_le' (show 1 ≤ bound by omega)
    have ends := follows_writeFields [] rest
    obtain ⟨text, quoted, named, read⟩ :=
      @readField_written _ name _ own.1 own.2 bound (by omega) ends
    simp only [quoted, List.cons_append, readFields, named, colon, read,
      skipBlanks_of_follows ends]
    rfl
  | cons next fields ih =>
    obtain ⟨first, each⟩ := List.forall_mem_cons.mp each
    simp only [List.length_append, List.length_cons, writeFields] at enough
    obtain ⟨bound, rfl⟩ := Nat.exists_eq_add_of_le' (show 1 ≤ bound by omega)
    have goes := follows_writeFields (next :: fields) rest
    obtain ⟨text, quoted, named, read⟩ :=
      @readField_written _ name _ own.1 own.2 bound (by omega) goes
    have others := @ih next.1 next.2 first each bound
      (by simp only [List.length_append, List.length_cons]; omega)
    obtain ⟨more, shape, -⟩ := readText_written next.1 []
    simp only [quoted, List.cons_append, readFields, named, colon, read,
      skipBlanks_of_follows goes]
    rw [shape, List.cons_append] at others
    simp only [writeFields, List.cons_append, List.append_assoc, shape, quote, others]

/-- An object is read back when what stands in its fields is. -/
theorem readBack_object {fields : List (Option String × Json)}
    (each : ∀ field ∈ fields, Integral field.2 ∧ ReadBack field.2) : ReadBack (.object fields) := by
  intro bound rest enough _
  obtain ⟨bound, rfl⟩ := Nat.exists_eq_add_of_le' (show 1 ≤ bound by
    cases fields <;> exact Nat.one_le_of_lt enough)
  cases fields with
  | nil => rfl
  | cons field fields =>
    obtain ⟨own, each⟩ := List.forall_mem_cons.mp each
    obtain ⟨text, quoted, -⟩ := readText_written field.1 []
    have read := readFields_written own each (Nat.le_of_succ_le_succ enough) rest
    have quote (cs : List Char) : skipBlanks ('"' :: cs) = '"' :: cs := rfl
    rw [quoted, List.cons_append] at read
    simp only [writeChars, quoted, List.cons_append, List.append_assoc, readValue, quote]
    split
    · next same => cases (List.cons.inj same).1
    · rw [read]

/-- **Reading back.** A value whose numbers are integers is read back from its text. -/
theorem Integral.readBack {value : Json} (integral : Integral value) : ReadBack value := by
  induction integral with
  | null =>
    intro bound rest enough _
    obtain ⟨bound, rfl⟩ := Nat.exists_eq_add_of_le' (Nat.one_le_of_lt enough)
    rfl
  | bool b =>
    intro bound rest enough _
    cases b <;> obtain ⟨bound, rfl⟩ := Nat.exists_eq_add_of_le' (Nat.one_le_of_lt enough) <;> rfl
  | number n =>
    intro bound rest enough follows
    obtain ⟨c, cs, shape, starts⟩ := exists_writeNumeral n
    rw [writeChars, shape] at enough
    obtain ⟨bound, rfl⟩ := Nat.exists_eq_add_of_le' (Nat.one_le_of_lt enough)
    have read := readNumber_writeNumeral n follows.stops
    rw [writeChars]
    rw [shape, List.cons_append] at read ⊢
    exact readValue_numeral bound starts read
  | text content =>
    intro bound rest enough _
    obtain ⟨text, quoted, read⟩ := readText_written content rest
    rw [writeChars, quoted] at enough
    obtain ⟨bound, rfl⟩ := Nat.exists_eq_add_of_le' (Nat.one_le_of_lt enough)
    simp only [writeChars, quoted, List.cons_append, readValue, read]
  | array items each ih =>
    exact readBack_array fun item member => ⟨each item member, ih item member⟩
  | object fields each ih =>
    exact readBack_object fun field member => ⟨each field member, ih field member⟩

/-- **Reading what was written.** -/
theorem read?_write {value : Json} (integral : Integral value) :
    read? value.write = some value := by
  have solid := integral.skipBlanks_eq []
  rw [List.append_nil] at solid
  have read := integral.readBack (2 * value.writeChars.length + 2) [] (by omega) nofun
  rw [List.append_nil] at read
  rw [read?, write, String.toList_ofList, solid, read]
  rfl

end ReplicaWatch.Json
