import ReplicaWatch.Text.Percent

/-! # Form encoding

The form `application/x-www-form-urlencoded` of a list of named values: names and values
joined by `=`, pairs by `&`, a space as `+`, and all bytes but those of letters, digits,
`*`, `-`, `.` and `_` as percent codes.
-/

namespace ReplicaWatch.Text

/-- Whether a byte stands for itself in a form. -/
def isFormByte (b : UInt8) : Bool :=
  let n := b.toNat
  (0x30 ≤ n && n ≤ 0x39) || (0x41 ≤ n && n ≤ 0x5A) || (0x61 ≤ n && n ≤ 0x7A) ||
    n == 0x2A || n == 0x2D || n == 0x2E || n == 0x5F

/-- How a byte is written in a form. -/
def formByte (b : UInt8) : List Char :=
  if isFormByte b then [Char.ofNat b.toNat]
  else if b = 0x20 then ['+']
  else percentByte b

/-- How a name or a value is written in a form. -/
def formText (s : String) : List Char :=
  (s.toList.flatMap String.utf8EncodeChar).flatMap formByte

/-- How a list of named values is written. -/
def formEncode : List (String × String) → List Char
  | [] => []
  | [(name, value)] => formText name ++ '=' :: formText value
  | (name, value) :: rest => formText name ++ '=' :: formText value ++ '&' :: formEncode rest

/-- Reads a name or a value of a form. -/
def formTextDecode (cs : List Char) : Option String :=
  ofUtf8? (percentDecode (cs.map fun c => if c = '+' then ' ' else c))

/-- Reads one named value. -/
def formPairDecode (cs : List Char) : Option (String × String) :=
  match formTextDecode (cs.takeWhile (· != '=')),
    formTextDecode ((cs.dropWhile (· != '=')).drop 1) with
  | some name, some value => some (name, value)
  | _, _ => none

/-- Reads the named values of a form; empty parts between separators do not count. -/
def formDecode (cs : List Char) : Option (List (String × String)) :=
  ((cs.splitOn '&').filter fun part => !part.isEmpty).mapM formPairDecode

end ReplicaWatch.Text
