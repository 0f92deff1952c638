import ReplicaWatch.Text.LowerCase
import ReplicaWatch.Text.Punycode
import ReplicaWatch.Url.Host

/-! # Domain names

The reader of domain names that the program uses. Letters are made small, the full-width
forms of ASCII and the ideographic stops stand for what they look like, and characters
that leave no trace are dropped. A label that then still holds characters beyond ASCII is
written in Punycode behind `xn--`. Of the characters beyond ASCII only those are read that
need no other treatment, which are the letters of a few scripts (`Domain.plainRuns`). A
name with any other character is refused.
-/

namespace ReplicaWatch.Url.Domain

/-- Whether a character leaves no trace in a name: the soft hyphen, characters without
width, and the selectors of variants. -/
def isIgnored (c : Char) : Bool :=
  ['\u00ad', '\u200b', '\u2060', '\ufeff'].contains c ||
    (decide (0xFE00 ≤ c.toNat) && decide (c.toNat ≤ 0xFE0F))

/-- The character that a character stands for in a name. -/
def folded (c : Char) : Char :=
  if ['\u3002', '\uff0e', '\uff61'].contains c then '.'
  else if 0xFF01 ≤ c.toNat && c.toNat ≤ 0xFF5E then Text.small (Char.ofNat (c.toNat - 0xFEE0))
  else Text.small c

/-- The code points beyond ASCII of letters that stand for themselves in a name, once they are
small, in runs: Latin, Greek, Cyrillic, Hiragana, Katakana, Chinese and Korean. -/
def plainRuns : List (Nat × Nat) :=
  [(0xDF, 0xF6), (0xF8, 0x12F), (0x131, 0x131), (0x135, 0x13E), (0x142, 0x148), (0x14B, 0x17E),
    (0x3AC, 0x3CE), (0x430, 0x45F), (0x3041, 0x3096), (0x30A1, 0x30FA), (0x4E00, 0x9FA5),
    (0xAC00, 0xD7A3)]

/-- Whether a character may stand in a name, once the name has been folded. -/
def isPlain (c : Char) : Bool :=
  isDomainChar c || plainRuns.any fun run => decide (run.1 ≤ c.toNat) && decide (c.toNat ≤ run.2)

/-- What a label in Punycode starts with. -/
def encodedMark : List Char := ['x', 'n', '-', '-']

/-- Whether a text is what a label beyond ASCII is written as behind the mark. -/
def isEncoding (cs : List Char) : Bool :=
  match Text.Punycode.decode? cs with
  | some label =>
    label.all isPlain && label.map folded == label && !label.all Text.isAscii &&
      Text.Punycode.encode label == cs
  | none => false

/-- Whether a label may stand in a name: if it starts with the mark, it has to be in Punycode. -/
def isLabel (label : List Char) : Bool :=
  !encodedMark.isPrefixOf label ||
    label.all Text.isAscii && isEncoding (label.drop encodedMark.length)

/-- A label in ASCII. -/
def labelText (label : List Char) : List Char :=
  if label.all Text.isAscii then label else encodedMark ++ Text.Punycode.encode label

/-- The name in ASCII that a name stands for. -/
def canonical? : DomainReader := fun cs =>
  let name := (cs.filter fun c => !isIgnored c).map folded
  let labels := name.splitOn '.'
  if name.all isPlain && labels.all isLabel then
    some (List.intercalate ['.'] (labels.map labelText))
  else none

end ReplicaWatch.Url.Domain
