import ReplicaWatch.Proofs.Text.PercentCodes
import ReplicaWatch.Text.Form

/-! # Reading a form

A list of named values is read back from its form (`Text.formDecode_formEncode`). The marks between
names and values are none of the characters that a name or a value is written with
(`Text.unmarked_of_mem_formText`), so the form comes apart where it was put together; and a plus
sign is read as a space before any code is, which no code is made of.
-/

namespace ReplicaWatch.Text

/-! ## Bytes -/

/-- A plus sign is read as a space. -/
def plusAsSpace (c : Char) : Char := if c = '+' then ' ' else c

/-- No digit of a percent code is a mark of the form. -/
theorem upperHexDigit_plain {n : Nat} (small : n < 16) :
    upperHexDigit n ≠ '+' ∧ upperHexDigit n ≠ '&' ∧ upperHexDigit n ≠ '=' := by
  have all : ∀ m ∈ List.range 16,
      upperHexDigit m ≠ '+' ∧ upperHexDigit m ≠ '&' ∧ upperHexDigit m ≠ '=' := by decide
  exact all n (List.mem_range.mpr small)

theorem plain_of_mem_percentByte {b : UInt8} {c : Char} (member : c ∈ percentByte b) :
    c ≠ '+' ∧ c ≠ '&' ∧ c ≠ '=' := by
  have small : b.toNat < 256 := b.toNat_lt
  simp only [percentByte, List.mem_cons, List.not_mem_nil, or_false] at member
  obtain rfl | rfl | rfl := member
  · decide
  · exact upperHexDigit_plain (by omega)
  · exact upperHexDigit_plain (by omega)

/-- A byte that stands for itself is the code point of a character, and that is no mark. -/
theorem char_of_isFormByte {b : UInt8} (own : isFormByte b = true) :
    String.utf8EncodeChar (Char.ofNat b.toNat) = [b] ∧ Char.ofNat b.toNat ≠ '%' ∧
      Char.ofNat b.toNat ≠ '+' ∧ Char.ofNat b.toNat ≠ '&' ∧ Char.ofNat b.toNat ≠ '=' := by
  simp only [isFormByte, Bool.or_eq_true, Bool.and_eq_true, decide_eq_true_eq, beq_iff_eq] at own
  have code : (Char.ofNat b.toNat).toNat = b.toNat := by
    have valid : b.toNat.isValidChar := .inl (by omega)
    rw [Char.ofNat, dif_pos valid]
    rfl
  have other {mark : Char} (differs : b.toNat ≠ mark.toNat) : Char.ofNat b.toNat ≠ mark := by
    rintro rfl
    exact differs code.symm
  have ascii : isAscii (Char.ofNat b.toNat) = true := by
    rw [isAscii, code, decide_eq_true_eq]
    omega
  refine ⟨?_, other ?_, other ?_, other ?_, other ?_⟩
  · rw [utf8EncodeChar_of_isAscii ascii, code, UInt8.ofNat_toNat]
  all_goals
    simp only [Char.reduceToNat]
    omega

/-- An encoded byte is decoded, in front of any rest. -/
theorem percentDecode_formByte (b : UInt8) (cs : List Char) :
    percentDecode ((formByte b).map plusAsSpace ++ cs) = b :: percentDecode cs := by
  unfold formByte
  split
  · next own =>
    obtain ⟨bytes, percent, plus, -⟩ := char_of_isFormByte own
    have plain : (Char.ofNat b.toNat == '%' && startsHex cs) = false := by
      rw [beq_eq_false_iff_ne.mpr percent, Bool.false_and]
    rw [List.map_singleton, plusAsSpace, if_neg plus, List.singleton_append,
      percentDecode_cons plain, bytes, List.singleton_append]
  · split
    · next space =>
      subst space
      rfl
    · have kept : (percentByte b).map plusAsSpace = percentByte b := by
        rw [List.map_congr_left (g := id), List.map_id]
        intro c member
        exact if_neg (plain_of_mem_percentByte member).1
      rw [kept, percentDecode_percentByte]

theorem percentDecode_formBytes (bytes : List UInt8) :
    percentDecode ((bytes.flatMap formByte).map plusAsSpace) = bytes := by
  induction bytes with
  | nil => rfl
  | cons b bytes ih => rw [List.flatMap_cons, List.map_append, percentDecode_formByte, ih]

/-- **The round trip of a text.** An encoded text is read back. -/
theorem formTextDecode_formText (s : String) : formTextDecode (formText s) = some s :=
  ofUtf8?_eq_some_iff.mpr (percentDecode_formBytes _)

/-! ## Marks -/

/-- An encoded text has none of the marks that divide a form. -/
theorem unmarked_of_mem_formText {s : String} {c : Char} (member : c ∈ formText s) :
    c ≠ '&' ∧ c ≠ '=' := by
  obtain ⟨b, -, written⟩ := List.mem_flatMap.mp member
  unfold formByte at written
  split at written
  · next own =>
    obtain rfl := List.mem_singleton.mp written
    exact (char_of_isFormByte own).2.2.2
  · split at written
    · obtain rfl := List.mem_singleton.mp written
      decide
    · exact (plain_of_mem_percentByte written).2

/-- How one named value is written. -/
def formPair (pair : String × String) : List Char := formText pair.1 ++ '=' :: formText pair.2

/-- A form is its pairs with a mark between them. -/
theorem formEncode_eq (pairs : List (String × String)) :
    formEncode pairs = ['&'].intercalate (pairs.map formPair) := by
  fun_induction formEncode pairs with
  | case1 => rfl
  | case2 name value => simp [formPair]
  | case3 name value rest more ih =>
    obtain ⟨next, later, rfl⟩ := List.exists_cons_of_ne_nil more
    rw [ih]
    simp [formPair, List.intercalate_cons_cons]

/-- An encoded pair is read back, its name and its content. -/
theorem formPairDecode_formPair (pair : String × String) :
    formPairDecode (formPair pair) = some pair := by
  have name : ∀ c ∈ formText pair.1, (c != '=') = true :=
    fun c member => bne_iff_ne.mpr (unmarked_of_mem_formText member).2
  rw [formPairDecode, formPair, List.takeWhile_append_of_pos name,
    List.dropWhile_append_of_pos name]
  simp [formTextDecode_formText]

/-- **Reading a form.** Named values are read back from their form, in order. -/
theorem formDecode_formEncode (pairs : List (String × String)) :
    formDecode (formEncode pairs) = some pairs := by
  have parts : (pairs.map formPair).mapM formPairDecode = some pairs := by
    induction pairs with
    | nil => rfl
    | cons pair pairs ih =>
      rw [List.map_cons, List.mapM_cons, formPairDecode_formPair, ih]
      rfl
  have written : ∀ part ∈ pairs.map formPair, !part.isEmpty := by
    intro part member
    obtain ⟨pair, -, rfl⟩ := List.mem_map.mp member
    simp [formPair]
  by_cases none : pairs = []
  · subst none
    rfl
  · have apart : ∀ part ∈ pairs.map formPair, '&' ∉ part := by
      intro part member
      obtain ⟨pair, -, rfl⟩ := List.mem_map.mp member
      intro mark
      obtain mark | mark := List.mem_append.mp mark
      · exact (unmarked_of_mem_formText mark).1 rfl
      · obtain mark | mark := List.mem_cons.mp mark
        · cases mark
        · exact (unmarked_of_mem_formText mark).1 rfl
    rw [formDecode, formEncode_eq, List.splitOn_intercalate '&' apart (by simpa using none),
      List.filter_eq_self.mpr written, parts]

end ReplicaWatch.Text
