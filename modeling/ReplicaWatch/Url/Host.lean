import ReplicaWatch.Text.Hexadecimal
import ReplicaWatch.Text.Percent
import ReplicaWatch.Url.Fault

/-! # Hosts

A host is a domain name, a numeric address of the fourth or the sixth version of the
Internet protocol, or, in a URL of a scheme that is not one of the web, an unread text.
A domain name is brought to ASCII first, which is left to a reader of domain names. A name
whose last label is a number is then read as a numeric address. The text of a host is its
one canonical form; of an address in eight pieces the first longest run of zeros is left
out.
-/

namespace ReplicaWatch.Url

/-- A host. -/
inductive Host where
  | domain (name : String)
  | ipv4 (address : Nat)
  | ipv6 (pieces : List Nat)
  /-- The text of a host in a URL whose scheme gives it no meaning. -/
  | unread (text : String)
  deriving DecidableEq

/-! ## Addresses of four numbers -/

/-- Reads a number of an address: decimal, octal behind a zero, or hexadecimal behind
`0x`. -/
def readAddressNumber? (cs : List Char) : Option Nat :=
  match cs with
  | [] => none
  | '0' :: 'x' :: digits => inBase 16 digits
  | '0' :: 'X' :: digits => inBase 16 digits
  | '0' :: d :: digits => inBase 8 (d :: digits)
  | digits => inBase 10 digits
where
  /-- The number that digits write in a base; none of them write zero. -/
  inBase (base : Nat) (digits : List Char) : Option Nat :=
    digits.foldlM
      (fun sum c => (Text.hexValue? c).bind fun d => if d < base then some (sum * base + d) else none)
      0

/-- The labels of a domain name, without an empty one behind a final point. -/
def labels (cs : List Char) : List (List Char) :=
  let parts := cs.splitOn '.'
  if 1 < parts.length ∧ parts.getLast? = some [] then parts.dropLast else parts

/-- Whether a domain name ends in a number, so that it has to be an address. -/
def endsInNumber (cs : List Char) : Bool :=
  match (labels cs).getLast? with
  | none => false
  | some last =>
    !last.isEmpty && last.all Char.isDigit || (readAddressNumber? last).isSome

/-- Reads an address of one to four numbers, of which the last one fills the bytes that
are left. -/
def readIpv4? (cs : List Char) : Option Nat :=
  let parts := labels cs
  if 4 < parts.length then none
  else
    match parts.mapM readAddressNumber? with
    | none => none
    | some numbers =>
      let lead := numbers.dropLast
      let last := numbers.getLast?.getD 0
      if lead.all (· ≤ 255) && decide (last < Nat.pow 256 (4 - lead.length)) then
        some (lead.foldl (fun sum n => sum * 256 + n) 0 * Nat.pow 256 (4 - lead.length) + last)
      else none

/-- The text of an address of four bytes. -/
def ipv4Chars (address : Nat) : List Char :=
  List.intercalate ['.']
    ([16777216, 65536, 256, 1].map fun unit => Nat.toDigits 10 (address / unit % 256))

/-! ## Addresses of eight pieces -/

/-- Reads a piece of one to four hexadecimal digits. -/
def readPiece? (cs : List Char) : Option Nat :=
  if cs.isEmpty || decide (4 < cs.length) then none
  else Text.hexNumber? cs

/-- Reads a byte in decimal, without leading zeros. -/
def readByte? (cs : List Char) : Option Nat :=
  if cs.isEmpty || !cs.all Char.isDigit || (decide (1 < cs.length) && cs.head? == some '0') then none
  else
    let n := Nat.ofDigitChars 10 cs 0
    if n ≤ 255 then some n else none

/-- Reads four bytes as the last two pieces of an address. -/
def readTail? (cs : List Char) : Option (List Nat) :=
  match (cs.splitOn '.').mapM readByte? with
  | some [a, b, c, d] => some [a * 256 + b, c * 256 + d]
  | _ => none

/-- Reads pieces with colons between them. The last one may be four bytes, if the address
ends with it. -/
def readPieces? (final : Bool) : List (List Char) → Option (List Nat)
  | [] => some []
  | [part] =>
    if final && part.contains '.' then readTail? part else (readPiece? part).map ([·])
  | part :: rest =>
    match readPiece? part, readPieces? final rest with
    | some piece, some pieces => some (piece :: pieces)
    | _, _ => none

/-- The pieces of one side of a gap. -/
def readSide? (final : Bool) (cs : List Char) : Option (List Nat) :=
  if cs.isEmpty then some [] else readPieces? final (cs.splitOn ':')

/-- The two sides of the first double colon. -/
def splitGap? : List Char → Option (List Char × List Char)
  | ':' :: ':' :: rest => some ([], rest)
  | c :: rest => (splitGap? rest).map fun sides => (c :: sides.1, sides.2)
  | [] => none

/-- Reads an address of eight pieces, of which a double colon may stand for one or more
that are zero. -/
def readIpv6? (cs : List Char) : Option (List Nat) :=
  match splitGap? cs with
  | none =>
    match readSide? true cs with
    | some pieces => if pieces.length = 8 then some pieces else none
    | none => none
  | some (left, right) =>
    match readSide? false left, readSide? true right with
    | some before, some after =>
      if before.length + after.length ≤ 7 then
        some (before ++ List.replicate (8 - before.length - after.length) 0 ++ after)
      else none
    | _, _ => none

/-- The length of the run of zeros at the front. -/
def zeroRun (pieces : List Nat) : Nat := (pieces.takeWhile (· == 0)).length

/-- The start and the length of the first longest run of zeros. -/
def longestZeroRun (pieces : List Nat) : Nat × Nat :=
  (List.range pieces.length).foldl
    (fun best start =>
      let run := zeroRun (pieces.drop start)
      if best.2 < run then (start, run) else best)
    (0, 0)

/-- The text of an address of eight pieces. A single zero is not left out. -/
def ipv6Chars (pieces : List Nat) : List Char :=
  let write := fun part : List Nat => List.intercalate [':'] (part.map (Nat.toDigits 16))
  let (start, run) := longestZeroRun pieces
  if run ≤ 1 then write pieces
  else write (pieces.take start) ++ [':', ':'] ++ write (pieces.drop (start + run))

/-! ## Hosts of every kind -/

/-- Brings the name of a domain to ASCII, or refuses it. -/
abbrev DomainReader : Type := List Char → Option (List Char)

/-- Whether a character may stand in the name of a domain in ASCII. -/
def isDomainChar (c : Char) : Bool :=
  Text.isAscii c && decide (0x20 < c.toNat) && c.toNat != 0x7F &&
    !(['%', '#', '/', ':', '<', '>', '?', '@', '[', '\\', ']', '^', '|'].contains c)

/-- Whether a character may not stand in a host that is not read. -/
def isForbiddenInHost (c : Char) : Bool :=
  ['\x00', '\t', '\n', '\r', ' ', '#', '/', ':', '<', '>', '?', '@', '[', '\\', ']', '^', '|'].contains c

/-- Reads a domain name or an address of four numbers, in which characters may be
percent-encoded. -/
def readDomain (toAscii : DomainReader) (cs : List Char) : Except Fault Host :=
  match (Text.ofUtf8? (Text.percentDecode cs)).bind fun name => toAscii name.toList with
  | none => .error .invalidInternationalDomainName
  | some name =>
    if name.isEmpty then .error .emptyHost
    else if endsInNumber name then
      match readIpv4? name with
      | some address => .ok (.ipv4 address)
      | none => .error .invalidIpv4Address
    else .ok (.domain (String.ofList name))

/-- Reads the inside of brackets. -/
def readBracketed (cs : List Char) : Except Fault Host :=
  match cs.getLast? with
  | some ']' =>
    match readIpv6? cs.dropLast with
    | some pieces => .ok (.ipv6 pieces)
    | none => .error .invalidIpv6Address
  | _ => .error .invalidIpv6Address

/-- Reads the host of a URL. -/
def readHost (toAscii : DomainReader) (special : Bool) (cs : List Char) : Except Fault Host :=
  match cs with
  | '[' :: rest => readBracketed rest
  | cs =>
    if special then
      if cs.isEmpty then .error .emptyHost else readDomain toAscii cs
    else if cs.any isForbiddenInHost then .error .invalidDomainCharacter
    else .ok (.unread (String.ofList (Text.percentEncode Text.isControl cs)))

/-- The text of a host. -/
def Host.chars : Host → List Char
  | .domain name => name.toList
  | .ipv4 address => ipv4Chars address
  | .ipv6 pieces => '[' :: ipv6Chars pieces ++ [']']
  | .unread text => text.toList

end ReplicaWatch.Url
