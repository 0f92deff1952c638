import ReplicaWatch.Json
import ReplicaWatch.Text.Hexadecimal

/-! # Writing JSON

The compact text of a value: no blanks between its parts, and in a text an escape
only for the quote, the backslash and the control characters.
-/

namespace ReplicaWatch.Json

/-- How a character is written inside a text. -/
def escape (c : Char) : List Char :=
  match c with
  | '"' => ['\\', '"']
  | '\\' => ['\\', '\\']
  | '\x08' => ['\\', 'b']
  | '\x0c' => ['\\', 'f']
  | '\n' => ['\\', 'n']
  | '\r' => ['\\', 'r']
  | '\t' => ['\\', 't']
  | c =>
    if c.toNat < 0x20 then
      ['\\', 'u', '0', '0', Text.hexDigit (c.toNat / 16), Text.hexDigit (c.toNat % 16)]
    else [c]

/-- A text in quotes. What no string spells is written as a surrogate that stands
alone. -/
def writeText : Option String → List Char
  | some s => '"' :: (s.toList.flatMap escape ++ ['"'])
  | none => ['"', '\\', 'u', 'd', '8', '0', '0', '"']

/-- A number's literal. -/
def writeNumeral : Numeral → List Char
  | .integer (.ofNat n) => Nat.toDigits 10 n
  | .integer (.negSucc n) => '-' :: Nat.toDigits 10 (n + 1)
  | .inexact literal => literal.toList

mutual

/-- The text of a value, as characters. -/
def writeChars : Json → List Char
  | .null => ['n', 'u', 'l', 'l']
  | .bool true => ['t', 'r', 'u', 'e']
  | .bool false => ['f', 'a', 'l', 's', 'e']
  | .number numeral => writeNumeral numeral
  | .text content => writeText content
  | .array [] => ['[', ']']
  | .array (item :: items) => '[' :: (writeChars item ++ writeItems items)
  | .object [] => ['\x7b', '\x7d']
  | .object ((name, value) :: fields) =>
    '\x7b' :: (writeText name ++ ':' :: (writeChars value ++ writeFields fields))

/-- The items behind the first one, and the closing bracket. -/
def writeItems : List Json → List Char
  | [] => [']']
  | item :: items => ',' :: (writeChars item ++ writeItems items)

/-- The fields behind the first one, and the closing brace. -/
def writeFields : List (Option String × Json) → List Char
  | [] => ['\x7d']
  | (name, value) :: fields =>
    ',' :: (writeText name ++ ':' :: (writeChars value ++ writeFields fields))

end

/-- The text of a value. -/
def write (value : Json) : String :=
  String.ofList value.writeChars

end ReplicaWatch.Json
