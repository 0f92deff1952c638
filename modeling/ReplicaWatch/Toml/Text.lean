import ReplicaWatch.Text.Hexadecimal

/-! # Texts in TOML

The four kinds of strings: basic ones with escapes, literal ones without, and either of
them over several lines. A string over several lines does not hold a line break right
behind its opening, and a backslash at the end of one of its lines joins it to the next
character that is no blank.
-/

namespace ReplicaWatch.Toml

/-- Whether a character may not stand bare in a string or a comment. -/
def isForbidden (c : Char) : Bool := (c.toNat < 0x20 && c != '\t') || c.toNat == 0x7F

/-- Whether a character separates the parts of a line. -/
def isSpace (c : Char) : Bool := c == ' ' || c == '\t'

/-- The character with a code point given in hexadecimal digits. -/
def scalar? (digits : List Char) : Option Char :=
  match Text.hexNumber? digits with
  | none => none
  | some n => if h : n.isValidChar then some (Char.ofNatAux n h) else none

/-- Reads what follows the backslash of an escape. -/
def readEscape : List Char → Option (Char × List Char)
  | 'b' :: rest => some ('\x08', rest)
  | 't' :: rest => some ('\t', rest)
  | 'n' :: rest => some ('\n', rest)
  | 'f' :: rest => some ('\x0c', rest)
  | 'r' :: rest => some ('\r', rest)
  | 'e' :: rest => some ('\x1b', rest)
  | '"' :: rest => some ('"', rest)
  | '\\' :: rest => some ('\\', rest)
  | 'x' :: rest => coded 2 rest
  | 'u' :: rest => coded 4 rest
  | 'U' :: rest => coded 8 rest
  | _ => none
where
  /-- Reads a code point of `width` digits. -/
  coded (width : Nat) (cs : List Char) : Option (Char × List Char) :=
    if cs.length < width then none
    else (scalar? (cs.take width)).map fun c => (c, cs.drop width)

/-- A text without the blanks and line breaks at its front. -/
def skipLines (cs : List Char) : List Char :=
  cs.dropWhile fun c => c == ' ' || c == '\t' || c == '\n' || c == '\r'

/-- Whether a backslash with `cs` behind it ends its line. -/
def endsLine (cs : List Char) : Bool :=
  match cs.dropWhile isSpace with
  | '\n' :: _ => true
  | '\r' :: '\n' :: _ => true
  | _ => false

/-- Reads a basic string behind its opening quote. The first argument bounds the number of
steps; the length of the text is enough. -/
def readBasic : Nat → List Char → Option (List Char × List Char)
  | 0, _ => none
  | bound + 1, cs =>
    match cs with
    | '"' :: rest => some ([], rest)
    | '\\' :: rest =>
      match readEscape rest with
      | none => none
      | some (c, rest) => (readBasic bound rest).map fun text => (c :: text.1, text.2)
    | c :: rest =>
      if isForbidden c then none
      else (readBasic bound rest).map fun text => (c :: text.1, text.2)
    | [] => none

/-- Reads a literal string behind its opening quote. -/
def readLiteral : List Char → Option (List Char × List Char)
  | [] => none
  | '\'' :: rest => some ([], rest)
  | c :: rest =>
    if isForbidden c then none else (readLiteral rest).map fun text => (c :: text.1, text.2)

/-- The quotes at the end of a string over several lines: the last three close it, and up
to two before them belong to it. -/
def closing? (quote : Char) (cs : List Char) : Option (List Char × List Char) :=
  let run := (cs.takeWhile (· == quote)).length
  if run < 3 then none
  else if run ≤ 5 then some (List.replicate (run - 3) quote, cs.drop run)
  else some ([quote, quote], cs.drop 5)

/-- Reads a basic string over several lines behind its opening quotes. -/
def readLongBasic : Nat → List Char → Option (List Char × List Char)
  | 0, _ => none
  | bound + 1, cs =>
    match closing? '"' cs with
    | some closed => some closed
    | none =>
      match cs with
      | '\\' :: rest =>
        if endsLine rest then readLongBasic bound (skipLines rest)
        else
          match readEscape rest with
          | none => none
          | some (c, rest) => (readLongBasic bound rest).map fun text => (c :: text.1, text.2)
      | '\r' :: '\n' :: rest =>
        (readLongBasic bound rest).map fun text => ('\n' :: text.1, text.2)
      | c :: rest =>
        if isForbidden c && c != '\n' then none
        else (readLongBasic bound rest).map fun text => (c :: text.1, text.2)
      | [] => none

/-- Reads a literal string over several lines behind its opening quotes. -/
def readLongLiteral : Nat → List Char → Option (List Char × List Char)
  | 0, _ => none
  | bound + 1, cs =>
    match closing? '\'' cs with
    | some closed => some closed
    | none =>
      match cs with
      | '\r' :: '\n' :: rest =>
        (readLongLiteral bound rest).map fun text => ('\n' :: text.1, text.2)
      | c :: rest =>
        if isForbidden c && c != '\n' then none
        else (readLongLiteral bound rest).map fun text => (c :: text.1, text.2)
      | [] => none

/-- A text without the line break at its front. -/
def skipLineBreak : List Char → List Char
  | '\n' :: rest => rest
  | '\r' :: '\n' :: rest => rest
  | cs => cs

/-- Reads a string of any kind from its opening on; nothing, if there is none. -/
def readString (cs : List Char) : Option (String × List Char) :=
  let read : Option (List Char × List Char) :=
    match cs with
    | '"' :: '"' :: '"' :: rest => readLongBasic (cs.length + 1) (skipLineBreak rest)
    | '\'' :: '\'' :: '\'' :: rest => readLongLiteral (cs.length + 1) (skipLineBreak rest)
    | '"' :: rest => readBasic (cs.length + 1) rest
    | '\'' :: rest => readLiteral rest
    | _ => none
  read.map fun text => (String.ofList text.1, text.2)

end ReplicaWatch.Toml
