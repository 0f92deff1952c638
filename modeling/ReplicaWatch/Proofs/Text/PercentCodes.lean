import Mathlib.Data.List.Flatten
import ReplicaWatch.Text.Percent

/-! # Percent codes

Reading a text's percent codes back undoes the encoding of characters
(`Text.percentDecode_percentEncode`), but not more: a code that was in the text before is read too.
So a text is read as itself just when it holds no code (`Text.percentDecode_of_plain`), and
otherwise it is read as fewer bytes than it has (`Text.length_percentDecode_lt`).
-/

namespace ReplicaWatch.Text

/-! ## Bytes -/

/-- The bytes of characters in UTF-8. -/
def utf8Bytes (cs : List Char) : List UInt8 := cs.flatMap String.utf8EncodeChar

theorem utf8Bytes_cons (c : Char) (cs : List Char) :
    utf8Bytes (c :: cs) = String.utf8EncodeChar c ++ utf8Bytes cs := List.flatMap_cons

theorem utf8Bytes_append (cs more : List Char) :
    utf8Bytes (cs ++ more) = utf8Bytes cs ++ utf8Bytes more := List.flatMap_append

/-- A character adds as many bytes as it takes in UTF-8. -/
theorem length_utf8Bytes_cons (c : Char) (cs : List Char) :
    (utf8Bytes (c :: cs)).length = c.utf8Size + (utf8Bytes cs).length := by
  rw [utf8Bytes_cons, List.length_append, String.length_utf8EncodeChar]

/-- A character of ASCII is one byte, its code point. -/
theorem utf8EncodeChar_of_isAscii {c : Char} (ascii : isAscii c = true) :
    String.utf8EncodeChar c = [UInt8.ofNat c.toNat] := by
  have small : c.toNat ≤ 0x7f := Nat.le_of_lt_succ (of_decide_eq_true ascii)
  rw [String.utf8EncodeChar, Char.toNat_val]
  exact if_pos small

/-- A string is read from its own bytes, and from no others. -/
theorem ofUtf8?_eq_some_iff {bytes : List UInt8} {s : String} :
    ofUtf8? bytes = some s ↔ bytes = utf8Bytes s.toList := by
  have own : s.toByteArray.data.toList = utf8Bytes s.toList := by
    rw [← String.utf8Encode_toList, List.utf8Encode, List.toList_data_toByteArray]
    rfl
  rw [← own, ofUtf8?, String.fromUTF8?]
  constructor
  · intro read
    split at read
    · cases read
      rfl
    · cases read
  · rintro rfl
    exact dif_pos s.isValidUTF8

/-- Leaving characters out of a text takes bytes from it. -/
theorem length_utf8Bytes_le {part whole : List Char} (sub : part.Sublist whole) :
    (utf8Bytes part).length ≤ (utf8Bytes whole).length :=
  (sub.flatMap String.utf8EncodeChar).length_le

/-- A text from which no byte is missing misses no character. -/
theorem eq_of_length_utf8Bytes_le {part whole : List Char} (sub : part.Sublist whole)
    (long : (utf8Bytes whole).length ≤ (utf8Bytes part).length) : part = whole := by
  induction sub with
  | slnil => rfl
  | cons c sub ih =>
    rw [length_utf8Bytes_cons] at long
    have shorter := length_utf8Bytes_le sub
    have positive := c.utf8Size_pos
    omega
  | cons_cons c sub ih =>
    rw [length_utf8Bytes_cons, length_utf8Bytes_cons] at long
    rw [ih (by omega)]

/-! ## Codes -/

/-- Whether two hexadecimal digits stand at the front of a text. -/
def startsHex : List Char → Bool
  | high :: low :: _ => (hexValue? high).isSome && (hexValue? low).isSome
  | _ => false

/-- Whether a percent code stands somewhere in a text. -/
def hasPercentCode : List Char → Bool
  | [] => false
  | c :: rest => c == '%' && startsHex rest || hasPercentCode rest

/-- A percent code is read as the byte that its digits stand for. -/
theorem percentDecode_code {high low : Char} {h l : Nat} (found : hexValue? high = some h)
    (other : hexValue? low = some l) (cs : List Char) :
    percentDecode ('%' :: high :: low :: cs) = UInt8.ofNat (h * 16 + l) :: percentDecode cs := by
  simp only [percentDecode, found, other]

/-- A character that begins no percent code is read as its own bytes. -/
theorem percentDecode_cons {c : Char} {cs : List Char}
    (plain : (c == '%' && startsHex cs) = false) :
    percentDecode (c :: cs) = String.utf8EncodeChar c ++ percentDecode cs := by
  match c, cs with
  | c, [] => rw [percentDecode]; nofun
  | c, [_] => rw [percentDecode]; nofun
  | c, high :: low :: rest =>
    by_cases percent : c = '%'
    · subst percent
      rw [percentDecode]
      split
      · next h l found other => simp [startsHex, found, other] at plain
      · rfl
    · rw [percentDecode]
      intro _ _ _ same
      exact absurd same percent

/-- A text that is not empty starts with a percent code or with a character of its own. -/
@[elab_as_elim]
theorem percentDecode_induction {motive : List Char → Prop} (nil : motive [])
    (code : ∀ high low rest h l, hexValue? high = some h → hexValue? low = some l →
      motive rest → motive ('%' :: high :: low :: rest))
    (plain : ∀ c rest, (c == '%' && startsHex rest) = false → motive rest → motive (c :: rest))
    (cs : List Char) : motive cs := by
  fun_induction percentDecode cs with
  | case1 high low rest h l found same ih => exact code high low rest h l same found ih
  | case2 high low rest missing ih =>
    refine plain '%' _ ?_ ih
    cases found : hexValue? high with
    | none => simp [startsHex, found]
    | some h =>
      cases same : hexValue? low with
      | none => simp [startsHex, same]
      | some l => exact (missing h l found same).elim
  | case3 c rest short ih =>
    refine plain c rest ?_ ih
    match rest with
    | [] => simp [startsHex]
    | [_] => simp [startsHex]
    | high :: low :: rest =>
      simpa [startsHex] using fun percent => (short high low rest percent rfl).elim
  | case4 => exact nil

/-- A text without percent codes is read as itself. -/
theorem percentDecode_of_plain {cs : List Char} (plain : hasPercentCode cs = false) :
    percentDecode cs = utf8Bytes cs := by
  induction cs with
  | nil => rfl
  | cons c cs ih =>
    rw [hasPercentCode, Bool.or_eq_false_iff] at plain
    rw [percentDecode_cons plain.1, ih plain.2, utf8Bytes_cons]

/-- Reading percent codes makes no text longer. -/
theorem length_percentDecode_le (cs : List Char) :
    (percentDecode cs).length ≤ (utf8Bytes cs).length := by
  induction cs using percentDecode_induction with
  | nil => exact Nat.le_refl _
  | code high low rest h l found other ih =>
    rw [percentDecode_code found other, List.length_cons]
    simp only [length_utf8Bytes_cons]
    have positive := '%'.utf8Size_pos
    omega
  | plain c rest plain ih =>
    rw [percentDecode_cons plain, length_utf8Bytes_cons, List.length_append,
      String.length_utf8EncodeChar]
    exact Nat.add_le_add_left ih _

/-- Each code stands for one byte, and is made of three. -/
theorem length_percentDecode_lt {cs : List Char} (coded : hasPercentCode cs = true) :
    (percentDecode cs).length < (utf8Bytes cs).length := by
  induction cs using percentDecode_induction with
  | nil => cases coded
  | code high low rest h l found other =>
    have shorter := length_percentDecode_le rest
    rw [percentDecode_code found other, List.length_cons]
    simp only [length_utf8Bytes_cons]
    have percent := '%'.utf8Size_pos
    have digit := high.utf8Size_pos
    omega
  | plain c rest plain ih =>
    rw [hasPercentCode, plain, Bool.false_or] at coded
    rw [percentDecode_cons plain, length_utf8Bytes_cons, List.length_append,
      String.length_utf8EncodeChar]
    exact Nat.add_lt_add_left (ih coded) _

/-! ## Encoding -/

/-- A byte is read back from its percent code. -/
theorem percentDecode_percentByte (b : UInt8) (cs : List Char) :
    percentDecode (percentByte b ++ cs) = b :: percentDecode cs := by
  have small : b.toNat < 256 := b.toNat_lt
  have high := hexValue?_upperHexDigit (n := b.toNat / 16) (by omega)
  have low := hexValue?_upperHexDigit (n := b.toNat % 16) (by omega)
  calc percentDecode (percentByte b ++ cs)
      = UInt8.ofNat (b.toNat / 16 * 16 + b.toNat % 16) :: percentDecode cs :=
        percentDecode_code high low cs
    _ = b :: percentDecode cs := by rw [Nat.div_add_mod', UInt8.ofNat_toNat]

/-- A character is read back from its percent codes. -/
theorem percentDecode_percentChar (c : Char) (cs : List Char) :
    percentDecode (percentChar c ++ cs) = String.utf8EncodeChar c ++ percentDecode cs := by
  unfold percentChar
  induction String.utf8EncodeChar c with
  | nil => rfl
  | cons b bytes ih =>
    rw [List.flatMap_cons, List.append_assoc, percentDecode_percentByte, ih, List.cons_append]

theorem exists_percentChar (c : Char) : ∃ cs, percentChar c = '%' :: cs := by
  cases bytes : String.utf8EncodeChar c with
  | nil => exact absurd bytes String.utf8EncodeChar_ne_nil
  | cons b rest => exact ⟨_, by rw [percentChar, bytes]; rfl⟩

/-- Hexadecimal digits lie in three ranges of ASCII. -/
theorem range_of_hexValue? {c : Char} (hex : (hexValue? c).isSome = true) :
    (0x30 ≤ c.toNat ∧ c.toNat ≤ 0x39) ∨ (0x41 ≤ c.toNat ∧ c.toNat ≤ 0x46) ∨
      (0x61 ≤ c.toNat ∧ c.toNat ≤ 0x66) := by
  unfold hexValue? at hex
  split at hex
  · next digit => exact .inl (Char.isDigit_iff_toNat.mp digit)
  · split at hex
    · next letter => exact .inr (.inr letter)
    · split at hex
      · next letter => exact .inr (.inl letter)
      · cases hex

theorem isAscii_of_hexValue? {c : Char} (hex : (hexValue? c).isSome = true) : isAscii c = true := by
  have range := range_of_hexValue? hex
  rw [isAscii, decide_eq_true_eq]
  omega

theorem percentEncode_cons (encoded : Char → Bool) (c : Char) (cs : List Char) :
    percentEncode encoded (c :: cs) =
      (if isAscii c && !encoded c then [c] else percentChar c) ++ percentEncode encoded cs :=
  List.flatMap_cons

section Encoding

variable {encoded : Char → Bool} (hex : ∀ c, (hexValue? c).isSome = true → encoded c = false)
include hex

/-- A character is kept, or a percent sign stands in its place, and then it is no digit. -/
theorem percentEncode_cases (c : Char) (cs : List Char) :
    percentEncode encoded (c :: cs) = c :: percentEncode encoded cs ∨
      hexValue? c = none ∧ ∃ more, percentEncode encoded (c :: cs) = '%' :: more ∧
        percentDecode ('%' :: more) =
          String.utf8EncodeChar c ++ percentDecode (percentEncode encoded cs) := by
  rw [percentEncode_cons]
  split
  · exact .inl rfl
  · next spelt =>
    obtain ⟨more, same⟩ := exists_percentChar c
    refine .inr ⟨?_, more ++ percentEncode encoded cs, by rw [same]; rfl, ?_⟩
    · cases digit : hexValue? c with
      | none => rfl
      | some n =>
        have known : (hexValue? c).isSome = true := by rw [digit]; rfl
        simp [isAscii_of_hexValue? known, hex c known] at spelt
    · rw [← List.cons_append, ← same, percentDecode_percentChar]

/-- Encoding neither makes nor breaks digits at the front of a text. -/
theorem startsHex_percentEncode (cs : List Char) :
    startsHex (percentEncode encoded cs) = startsHex cs := by
  have percent : hexValue? '%' = none := rfl
  match cs with
  | [] => rfl
  | [a] =>
    obtain kept | ⟨-, more, spelt, -⟩ := percentEncode_cases hex a []
    · rw [kept]
      rfl
    · rw [spelt]
      cases more <;> simp [startsHex, percent]
  | a :: b :: rest =>
    obtain kept | ⟨undigit, more, spelt, -⟩ := percentEncode_cases hex a (b :: rest)
    · rw [kept]
      obtain kept | ⟨undigit, more, spelt, -⟩ := percentEncode_cases hex b rest
      · rw [kept]
        rfl
      · rw [spelt]
        simp [startsHex, percent, undigit]
    · rw [spelt]
      cases more <;> simp [startsHex, percent, undigit]

/-- **Reading what was encoded.** What a text stands for is kept by any encoding that leaves alone
what codes are made of. -/
theorem percentDecode_percentEncode (percent : encoded '%' = false) (cs : List Char) :
    percentDecode (percentEncode encoded cs) = percentDecode cs := by
  induction cs using percentDecode_induction with
  | nil => rfl
  | code high low rest h l found other ih =>
    have sign (cs : List Char) :
        percentEncode encoded ('%' :: cs) = '%' :: percentEncode encoded cs := by
      rw [percentEncode_cons, percent]
      rfl
    have digit {c : Char} {n : Nat} (known : hexValue? c = some n) (cs : List Char) :
        percentEncode encoded (c :: cs) = c :: percentEncode encoded cs := by
      obtain kept | ⟨undigit, -⟩ := percentEncode_cases hex c cs
      · exact kept
      · cases known.symm.trans undigit
    rw [sign, digit found, digit other, percentDecode_code found other,
      percentDecode_code found other, ih]
  | plain c rest plain ih =>
    rw [percentDecode_cons plain, ← ih]
    obtain kept | ⟨-, more, spelt, read⟩ := percentEncode_cases hex c rest
    · rw [kept]
      exact percentDecode_cons (by rw [startsHex_percentEncode hex, plain])
    · rw [spelt, read]

end Encoding

end ReplicaWatch.Text
