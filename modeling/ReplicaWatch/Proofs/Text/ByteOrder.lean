import Mathlib.Data.List.Lex
import Mathlib.Data.String.Basic

/-! # The order of texts

Texts are compared character by character. In UTF-8 this is the order of their bytes
(`Text.bytes_lt_iff`): the bytes of a lower character go before those of a higher one, whatever
comes behind them (`Text.charBytes_append_lt`), so none of the two can end within the other.
-/

namespace ReplicaWatch.Text

/-- The bytes of a text in UTF-8. -/
def bytes (text : String) : List Nat := text.toUTF8.data.toList.map UInt8.toNat

/-- The bytes of a character in UTF-8. -/
def charBytes (c : Char) : List Nat := (String.utf8EncodeChar c).map UInt8.toNat

/-- The digits of a code point to the base 64, each in its byte. The first byte says how many
follow. -/
theorem charBytes_eq (c : Char) :
    charBytes c =
      if c.toNat ≤ 0x7f then [c.toNat]
      else if c.toNat ≤ 0x7ff then [c.toNat / 64 + 0xc0, c.toNat % 64 + 0x80]
      else if c.toNat ≤ 0xffff then
        [c.toNat / 4096 + 0xe0, c.toNat / 64 % 64 + 0x80, c.toNat % 64 + 0x80]
      else
        [c.toNat / 262144 + 0xf0, c.toNat / 4096 % 64 + 0x80, c.toNat / 64 % 64 + 0x80,
          c.toNat % 64 + 0x80] := by
  have code : c.val.toNat = c.toNat := rfl
  have bound : c.toNat ≤ 0x10ffff := by
    have valid := c.valid
    simp only [UInt32.isValidChar, Nat.isValidChar, code] at valid
    omega
  simp only [charBytes, String.utf8EncodeChar, code]
  split_ifs <;>
    simp only [List.map_cons, List.map_nil, UInt8.toNat_ofNat', List.cons.injEq, and_true] <;>
    omega

/-- The bytes of a lesser character come first, whatever follows. -/
theorem charBytes_append_lt {c d : Char} (less : c < d) (rest others : List Nat) :
    charBytes c ++ rest < charBytes d ++ others := by
  have lower : c.toNat < d.toNat := less
  rw [charBytes_eq, charBytes_eq]
  -- Of different lengths the first byte decides, of one length the highest digit that differs.
  split_ifs <;> simp only [List.cons_append, List.nil_append, List.cons_lt_cons_iff] <;> omega

/-- The empty text comes before all others. -/
theorem nil_lt_charBytes_append (c : Char) (rest : List Nat) : [] < charBytes c ++ rest := by
  rw [charBytes_eq]
  split_ifs <;> exact List.nil_lt_cons _ _

/-- The order of the bytes follows that of the characters. -/
theorem flatMap_charBytes_lt {cs ds : List Char} (less : cs < ds) :
    cs.flatMap charBytes < ds.flatMap charBytes := by
  induction less with
  | nil =>
    rw [List.flatMap_nil, List.flatMap_cons]
    exact nil_lt_charBytes_append _ _
  | rel less =>
    rw [List.flatMap_cons, List.flatMap_cons]
    exact charBytes_append_lt less _ _
  | cons _ ih =>
    rw [List.flatMap_cons, List.flatMap_cons]
    exact List.Lex.append_left _ ih _

/-- The bytes of a text are those of its characters. -/
theorem bytes_eq (text : String) : bytes text = text.toList.flatMap charBytes := by
  rw [bytes, String.toUTF8, ← String.utf8Encode_toList, List.utf8Encode,
    List.toList_data_toByteArray, List.map_flatMap]
  rfl

/-- **The order of bytes.** Texts are in the order of their bytes. -/
theorem bytes_lt_iff (text other : String) : bytes text < bytes other ↔ text < other := by
  have strict : StrictMono bytes := by
    intro text other less
    rw [bytes_eq, bytes_eq]
    exact flatMap_charBytes_lt (String.lt_iff_toList_lt.mp less)
  exact strict.lt_iff_lt

end ReplicaWatch.Text
