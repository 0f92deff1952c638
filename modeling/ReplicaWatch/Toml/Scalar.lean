import ReplicaWatch.Json

/-! # Numbers and dates in TOML

The values that are written as one word: truth values, integers in four bases, floating
numbers, and dates and times. Only what a reader of settings can tell apart is kept of
them: a date is a record of one field that no settings have.
-/

namespace ReplicaWatch.Toml

/-- Whether a text is digits, with single underscores between some of them. -/
def isDigitRun (digit : Char → Bool) : List Char → Bool
  | [] => false
  | [c] => digit c
  | c :: '_' :: rest => digit c && isDigitRun digit rest
  | c :: rest => digit c && isDigitRun digit rest

/-- A text without a sign before it. -/
def unsigned : List Char → List Char
  | '+' :: rest => rest
  | '-' :: rest => rest
  | cs => cs

/-- Whether a text is an integer in decimal, without a sign and without leading zeros. -/
def isWhole (cs : List Char) : Bool :=
  cs == ['0'] || (isDigitRun Char.isDigit cs && cs.head? != some '0')

/-- Whether a character is a digit in a base of up to sixteen. -/
def isDigitIn (base : Nat) (c : Char) : Bool :=
  (c.isDigit && decide (c.toNat - 0x30 < base)) ||
    (base == 16 && (('a' ≤ c && c ≤ 'f') || ('A' ≤ c && c ≤ 'F')))

/-- Whether a text is an integer in another base. -/
def isBased : List Char → Bool
  | '0' :: 'x' :: rest => isDigitRun (isDigitIn 16) rest
  | '0' :: 'o' :: rest => isDigitRun (isDigitIn 8) rest
  | '0' :: 'b' :: rest => isDigitRun (isDigitIn 2) rest
  | _ => false

/-- Whether a text is an exponent behind its mark. -/
def isExponent (cs : List Char) : Bool := isDigitRun Char.isDigit (unsigned cs)

/-- What stands before the first character of a kind, and what stands behind it, if there is
one. -/
def cut (mark : Char → Bool) (cs : List Char) : List Char × Option (List Char) :=
  (cs.takeWhile fun c => !mark c, (cs.dropWhile fun c => !mark c).tail?)

/-- Whether a text is a floating number. -/
def isFloat (cs : List Char) : Bool :=
  let magnitude := unsigned cs
  if magnitude == ['i', 'n', 'f'] || magnitude == ['n', 'a', 'n'] then true
  else
    let (mantissa, exponent) := cut (fun c => c == 'e' || c == 'E') magnitude
    let (whole, fraction) := cut (· == '.') mantissa
    isWhole whole &&
      (match fraction with
        | none => exponent.isSome
        | some digits => isDigitRun Char.isDigit digits) &&
      (match exponent with
        | none => true
        | some digits => isExponent digits)

/-- The number that a text of digits writes, if it has `width` of them. -/
def fixed? (width : Nat) (cs : List Char) : Option Nat :=
  if cs.length = width && cs.all Char.isDigit then some (Nat.ofDigitChars 10 cs 0) else none

/-- The days of a month. -/
def daysIn (year month : Nat) : Nat :=
  if month = 2 then
    if year % 4 = 0 && (year % 100 != 0 || year % 400 = 0) then 29 else 28
  else if month = 4 || month = 6 || month = 9 || month = 11 then 30
  else 31

/-- Whether a text is a date. -/
def isDate (cs : List Char) : Bool :=
  match cs.splitOn '-' with
  | [y, m, d] =>
    match fixed? 4 y, fixed? 2 m, fixed? 2 d with
    | some year, some month, some day =>
      decide (1 ≤ month) && decide (month ≤ 12) && decide (1 ≤ day) &&
        decide (day ≤ daysIn year month)
    | _, _, _ => false
  | _ => false

/-- Whether a text is a number of two digits up to `high`. -/
def isUpTo (high : Nat) (cs : List Char) : Bool :=
  match fixed? 2 cs with
  | some n => decide (n ≤ high)
  | none => false

/-- Whether a text is a number of seconds, with or without a fraction. -/
def isSecond (cs : List Char) : Bool :=
  let (whole, fraction) := cut (· == '.') cs
  isUpTo 60 whole &&
    (match fraction with
      | none => true
      | some digits => !digits.isEmpty && digits.all Char.isDigit)

/-- Whether a text is a time of day; the seconds may be left out. -/
def isTime (cs : List Char) : Bool :=
  match cs.splitOn ':' with
  | [h, m] => isUpTo 23 h && isUpTo 59 m
  | [h, m, s] => isUpTo 23 h && isUpTo 59 m && isSecond s
  | _ => false

/-- Whether a text is a time of day with or without its distance from universal time. -/
def isOffsetTime (cs : List Char) : Bool :=
  let zone := cs.dropWhile fun c => !(c == 'Z' || c == 'z' || c == '+' || c == '-')
  isTime (cs.takeWhile fun c => !(c == 'Z' || c == 'z' || c == '+' || c == '-')) &&
    (match zone with
      | [] => true
      | ['Z'] => true
      | ['z'] => true
      | _ :: offset =>
        match offset.splitOn ':' with
        | [h, m] => isUpTo 23 h && isUpTo 59 m
        | _ => false)

/-- Whether a text is a date, a time, or both. -/
def isMoment (cs : List Char) : Bool :=
  isDate cs || isTime cs ||
    (isDate (cs.take 10) &&
      (match cs.drop 10 with
        | c :: time => (c == 'T' || c == 't' || c == ' ') && isOffsetTime time
        | [] => false))

/-- The value of a word. -/
def wordValue? (cs : List Char) : Option Json :=
  let literal := String.ofList cs
  if literal = "true" then some (.bool true)
  else if literal = "false" then some (.bool false)
  else if isWhole (unsigned cs) || isBased cs || isFloat cs then some (.number (.inexact literal))
  else if isMoment cs then some (.record [("date", .string literal)])
  else none

/-- Whether a character may stand in a word. -/
def isWordChar (c : Char) : Bool :=
  c.isAlphanum || c == '+' || c == '-' || c == '_' || c == '.' || c == ':'

/-- Reads a word. Between a date and a time of day a space may stand. -/
def readWord (cs : List Char) : Option (Json × List Char) :=
  let word := cs.takeWhile isWordChar
  let rest := cs.dropWhile isWordChar
  let (word, rest) :=
    match rest with
    | ' ' :: c :: more =>
      if isDate word && c.isDigit then
        (word ++ ' ' :: (c :: more).takeWhile isWordChar, (c :: more).dropWhile isWordChar)
      else (word, rest)
    | _ => (word, rest)
  (wordValue? word).map fun value => (value, rest)

end ReplicaWatch.Toml
