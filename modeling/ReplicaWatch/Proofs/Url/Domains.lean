import Mathlib.Data.List.Infix
import ReplicaWatch.Proofs.Text.PercentCodes
import ReplicaWatch.Proofs.Url.Joining
import ReplicaWatch.Url.Domain

/-! # The names of hosts

Whoever reads the names of domains is relied on for two things (`Url.LawfulDomains`): a name in
ASCII is put in small letters, and nothing comes out that may not stand in a name. From these it
follows what the text of a host is read as (`Url.Named`). They hold of the reader that the program
uses (`Url.Domain.lawful`).
-/

namespace ReplicaWatch

/-! ## What Punycode is written in -/

namespace Text.Punycode

/-- A digit of some value. -/
def IsDigit (c : Char) : Prop := ∃ n < 36, c = digit n

/-- A delta is written in digits. -/
theorem isDigit_of_mem_digits {bias position n : Nat} {c : Char}
    (member : c ∈ digits bias position n) : IsDigit c := by
  have bounds (position : Nat) := threshold_bounds position bias
  fun_induction digits bias position n with
  | case1 position n _ last =>
    obtain rfl := List.mem_singleton.mp member
    exact ⟨n, by have := bounds position; omega, rfl⟩
  | case2 position n t _ ih =>
    obtain rfl | later := List.mem_cons.mp member
    · have upper : t ≤ 26 := (bounds position).2
      have small := Nat.mod_lt (n - t) (show 0 < 36 - t by omega)
      exact ⟨_, by omega, rfl⟩
    · exact ih later

/-- A draft holds digits only, and passing a character writes nothing else. -/
theorem isDigit_of_mem_pass {point : Nat} {draft : Draft} {c own : Char}
    (written : ∀ c ∈ draft.output, IsDigit c) (member : c ∈ (draft.pass point own).output) :
    IsDigit c := by
  unfold Draft.pass at member
  split at member
  · exact written c member
  · split at member
    · obtain before | new := List.mem_append.mp member
      · exact written c before
      · exact isDigit_of_mem_digits new
    · exact written c member

/-- A pass over the characters writes only deltas. -/
theorem isDigit_of_mem_foldl {point : Nat} {cs : List Char} {draft : Draft}
    (written : ∀ c ∈ draft.output, IsDigit c) :
    ∀ c ∈ (cs.foldl (Draft.pass point) draft).output, IsDigit c := by
  induction cs generalizing draft with
  | nil => exact written
  | cons own rest ih => exact ih fun _ member => isDigit_of_mem_pass written member

theorem isDigit_of_mem_insert {cs : List Char} {points : List Nat} {next : Nat} {draft : Draft}
    (written : ∀ c ∈ draft.output, IsDigit c) :
    ∀ c ∈ (Draft.insert cs points next draft).output, IsDigit c := by
  induction points generalizing next draft with
  | nil => exact written
  | cons point rest ih => exact ih (isDigit_of_mem_foldl written)

/-- A text is written in its own characters of ASCII, digits, and a hyphen between them. -/
theorem mem_encode {cs : List Char} {c : Char} (member : c ∈ encode cs) :
    c ∈ cs ∧ isAscii c = true ∨ c = '-' ∨ IsDigit c := by
  obtain lead | number := List.mem_append.mp member
  · split at lead
    · cases lead
    · obtain basic | hyphen := List.mem_append.mp lead
      · exact .inl (List.mem_filter.mp basic)
      · exact .inr (.inl (List.mem_singleton.mp hyphen))
  · exact .inr (.inr (isDigit_of_mem_insert (fun _ none => absurd none List.not_mem_nil) c number))

end Text.Punycode

namespace Url

open Text

/-! ## What is relied on -/

/-- The name of a domain in ASCII, of which no label is marked as an encoding. -/
structure AsciiName (name : List Char) : Prop where
  nonempty : name ≠ []
  allowed : ∀ c ∈ name, isDomainChar c = true
  unmarked : ∀ label ∈ (name.map Char.toLower).splitOn '.',
    Domain.encodedMark.isPrefixOf label = false

/-- What is relied on of a reader of domain names. -/
structure LawfulDomains (toAscii : DomainReader) : Prop where
  /-- A name in ASCII is put in small letters. -/
  lowered : ∀ name, AsciiName name → toAscii name = some (name.map Char.toLower)
  /-- Nothing comes out that may not stand in a name. -/
  allowed : ∀ name text, toAscii name = some text → ∀ c ∈ text, isDomainChar c = true

/-! ## Hosts -/

/-- What the text of a host is read as. A name in ASCII that does not end in a number is read as
that name in small letters, and no name has a character that may not stand there. -/
structure Named (text : List Char) (host : Host) : Prop where
  lowered : AsciiName text → endsInNumber (text.map Char.toLower) = false →
    host = .domain (String.ofList (text.map Char.toLower))
  allowed : ∀ name, host = .domain name → ∀ c ∈ name.toList, isDomainChar c = true

/-- A percent code starts with its sign. -/
theorem hasPercentCode_of_not_mem {cs : List Char} (absent : '%' ∉ cs) :
    hasPercentCode cs = false := by
  induction cs with
  | nil => rfl
  | cons c rest ih =>
    obtain ⟨other, absent⟩ := not_or.mp (absent ∘ List.mem_cons.mpr)
    rw [hasPercentCode, ih absent, beq_false_of_ne (Ne.symm other)]
    rfl

section Hosts

variable {toAscii : DomainReader} {text : List Char} {host : Host}

/-- A name in ASCII has no percent codes to be read. -/
theorem AsciiName.ofUtf8?_eq (ascii : AsciiName text) :
    ofUtf8? (percentDecode text) = some (String.ofList text) := by
  have uncoded : hasPercentCode text = false :=
    hasPercentCode_of_not_mem fun percent => absurd (ascii.allowed '%' percent) (by decide)
  rw [ofUtf8?_eq_some_iff, percentDecode_of_plain uncoded, String.toList_ofList]

/-- A name in ASCII is read from its small letters. -/
theorem readDomain_ascii (lawful : LawfulDomains toAscii) (ascii : AsciiName text) :
    readDomain toAscii text =
      if endsInNumber (text.map Char.toLower) then
        match readIpv4? (text.map Char.toLower) with
        | some address => .ok (.ipv4 address)
        | none => .error .invalidIpv4Address
      else .ok (.domain (String.ofList (text.map Char.toLower))) := by
  rw [readDomain, ascii.ofUtf8?_eq, Option.bind_some, String.toList_ofList,
    lawful.lowered text ascii]
  exact if_neg (by simpa using ascii.nonempty)

/-- A lawful reader of names makes the host the one that its text names. -/
theorem named_of_readDomain (lawful : LawfulDomains toAscii)
    (read : readDomain toAscii text = .ok host) : Named text host where
  lowered := by
    intro ascii unnumbered
    rw [readDomain_ascii lawful ascii, unnumbered] at read
    exact (Except.ok.inj read).symm
  allowed := by
    rintro name rfl
    unfold readDomain at read
    split at read
    · cases read
    · next written found =>
      obtain ⟨decoded, -, found⟩ := Option.bind_eq_some_iff.mp found
      split at read
      · cases read
      · split at read
        · split at read <;> cases read
        · cases read
          rw [String.toList_ofList]
          exact lawful.allowed _ _ found

/-- The text of a host in a URL of the web is read as the host that it names. -/
theorem named_of_readHost (lawful : LawfulDomains toAscii)
    (read : readHost toAscii true text = .ok host) : Named text host := by
  unfold readHost at read
  split at read
  · next rest =>
    -- A bracket may not stand in a name, and what it opens is no name.
    constructor
    · intro ascii
      exact absurd (ascii.allowed '[' List.mem_cons_self) (by decide)
    · rintro name rfl
      unfold readBracketed at read
      split at read
      · split at read <;> cases read
      · cases read
  · rw [if_pos rfl] at read
    split at read
    · cases read
    · exact named_of_readDomain lawful read

end Hosts

/-! ## Authorities -/

/-- What stands between the slashes behind a scheme of the web and the next mark. -/
def authorityText (cs : List Char) : List Char :=
  (cs.dropWhile (isSlash true)).takeWhile fun c => !(isSlash true c || c == '?' || c == '#')

/-- The text of the host in that of an authority. -/
def hostText (authority : List Char) : List Char :=
  (splitPort false (splitUserinfo authority).2).1

/-- The text of the port in that of an authority, with its colon. -/
def portText (authority : List Char) : List Char :=
  (splitPort false (splitUserinfo authority).2).2

/-- The text of an authority names it: its host, and its port unless that is the usual one. -/
structure Names (scheme : String) (text : List Char) (authority : Authority) : Prop where
  host : Named (hostText text) authority.host
  port : readPort scheme (portText text) = .ok authority.port

section Authorities

variable {toAscii : DomainReader} {scheme : String} {cs : List Char}

/-- With a port behind it, the text names the authority. -/
theorem names_of_readAuthority (lawful : LawfulDomains toAscii)
    (special : isSpecialScheme scheme = true) {authority : Authority}
    (read : readAuthority toAscii scheme cs = .ok authority) : Names scheme cs authority := by
  obtain ⟨host, found, read⟩ := bind_eq_ok.mp read
  rw [special] at found
  split at read
  · cases read
  · obtain ⟨port, counted, read⟩ := bind_eq_ok.mp read
    cases read
    exact ⟨named_of_readHost lawful found, counted⟩

/-- A URL of the web is served by whom its text names. -/
theorem names_of_read (lawful : LawfulDomains toAscii) (special : isSpecialScheme scheme = true)
    {url : Url} (read : Url.read toAscii scheme cs = .ok url) :
    ∃ authority, url.authority = some authority ∧
      Names scheme (authorityText (cleaned cs)) authority := by
  unfold Url.read readBehindScheme readBehindSlashes at read
  rw [if_pos special] at read
  obtain ⟨authority, found, read⟩ := bind_eq_ok.mp read
  cases read
  rw [special] at found
  exact ⟨authority, rfl, names_of_readAuthority lawful special found⟩

end Authorities

/-! ## The reader of the program -/

namespace Domain

/-- A property of the characters of ASCII is checked on each of them. -/
theorem of_isAscii {p : Char → Prop} (each : ∀ n < 0x80, p (Char.ofNat n)) {c : Char}
    (ascii : isAscii c = true) : p c := by
  have small := each c.toNat (of_decide_eq_true ascii)
  rwa [Char.ofNat_toNat] at small

/-- What may stand in a domain name is ASCII. -/
theorem isAscii_of_isDomainChar {c : Char} (allowed : isDomainChar c = true) :
    isAscii c = true := by
  simp only [isDomainChar, Bool.and_eq_true] at allowed
  exact allowed.1.1.1

/-- A character of ASCII is not ignored, and stands for its small letter. -/
theorem folded_of_isAscii {c : Char} (ascii : isAscii c = true) :
    isIgnored c = false ∧ folded c = c.toLower :=
  of_isAscii (p := fun c => isIgnored c = false ∧ folded c = c.toLower) (by decide) ascii

/-- A small letter may stand where its capital may. -/
theorem isDomainChar_toLower {c : Char} (allowed : isDomainChar c = true) :
    isDomainChar c.toLower = true := by
  have each : ∀ n < 0x80, isDomainChar (Char.ofNat n) = true →
      isDomainChar (Char.ofNat n).toLower = true := by decide
  exact of_isAscii (p := fun c => isDomainChar c = true → isDomainChar c.toLower = true) each
    (isAscii_of_isDomainChar allowed) allowed

/-- The runs of plain characters are all beyond ASCII. -/
theorem isDomainChar_of_isPlain {c : Char} (plain : isPlain c = true) (ascii : isAscii c = true) :
    isDomainChar c = true := by
  have each : ∀ n < 0x80, isPlain (Char.ofNat n) = true → isDomainChar (Char.ofNat n) = true := by
    decide
  exact of_isAscii (p := fun c => isPlain c = true → isDomainChar c = true) each ascii plain

/-- Every digit of an encoded label may stand in a domain name. -/
theorem isDomainChar_digit {c : Char} (digit : Punycode.IsDigit c) : isDomainChar c = true := by
  obtain ⟨n, small, rfl⟩ := digit
  have each : ∀ n < 36, isDomainChar (Punycode.digit n) = true := by decide
  exact each n small

/-- A name in ASCII is only put in small letters. -/
theorem canonical?_ascii {name : List Char} (ascii : AsciiName name) :
    canonical? name = some (name.map Char.toLower) := by
  have each : ∀ c ∈ name, isIgnored c = false ∧ folded c = c.toLower := fun c member =>
    folded_of_isAscii (isAscii_of_isDomainChar (ascii.allowed c member))
  have kept : (name.filter fun c => !isIgnored c) = name :=
    List.filter_eq_self.mpr fun c member => by rw [(each c member).1]; rfl
  have lower : name.map folded = name.map Char.toLower :=
    List.map_congr_left fun c member => (each c member).2
  have allowed : ∀ c ∈ name.map Char.toLower, isDomainChar c = true := by
    intro c member
    obtain ⟨own, there, rfl⟩ := List.mem_map.mp member
    exact isDomainChar_toLower (ascii.allowed own there)
  have basic : ∀ label ∈ (name.map Char.toLower).splitOn '.', label.all isAscii = true := by
    intro label listed
    rw [List.all_eq_true]
    intro c there
    have inside := (mem_splitOnP listed).subset there
    exact isAscii_of_isDomainChar (allowed c (List.mem_of_mem_filter inside))
  have plain : (name.map Char.toLower).all isPlain = true := by
    rw [List.all_eq_true]
    exact fun c member => by rw [isPlain, allowed c member, Bool.true_or]
  have labels : ((name.map Char.toLower).splitOn '.').all isLabel = true := by
    rw [List.all_eq_true]
    intro label listed
    rw [isLabel, ascii.unmarked label listed]
    rfl
  have texts : ((name.map Char.toLower).splitOn '.').map labelText =
      (name.map Char.toLower).splitOn '.' :=
    (List.map_congr_left fun label listed => if_pos (basic label listed)).trans (List.map_id' _)
  unfold canonical?
  rw [kept, lower]
  dsimp only
  rw [plain, labels, texts, List.intercalate_splitOn]
  rfl

/-- What stands between marks is the mark or stands in one of the parts. -/
theorem mem_intercalate {c mark : Char} {parts : List (List Char)}
    (member : c ∈ List.intercalate [mark] parts) : c = mark ∨ ∃ part ∈ parts, c ∈ part := by
  induction parts with
  | nil => cases member
  | cons part rest ih =>
    cases rest with
    | nil => exact .inr ⟨part, List.mem_cons_self, by simpa using member⟩
    | cons next rest =>
      rw [List.intercalate_cons_cons] at member
      obtain front | behind := List.mem_append.mp member
      · obtain own | between := List.mem_append.mp front
        · exact .inr ⟨part, List.mem_cons_self, own⟩
        · exact .inl (List.mem_singleton.mp between)
      · obtain same | ⟨other, listed, there⟩ := ih behind
        · exact .inl same
        · exact .inr ⟨other, List.mem_cons_of_mem part listed, there⟩

/-- No character comes out that may not stand in a name. -/
theorem isDomainChar_of_canonical? {name text : List Char} (found : canonical? name = some text) :
    ∀ c ∈ text, isDomainChar c = true := by
  unfold canonical? at found
  dsimp only at found
  split at found
  · next accepted =>
    obtain ⟨plain, -⟩ := (Bool.and_eq_true _ _).mp accepted
    rw [List.all_eq_true] at plain
    cases found
    intro c member
    obtain rfl | ⟨part, listed, there⟩ := mem_intercalate member
    · decide
    · obtain ⟨label, split, rfl⟩ := List.mem_map.mp listed
      have own : ∀ c ∈ label, isPlain c = true := fun c inside =>
        plain c (List.mem_of_mem_filter ((mem_splitOnP split).subset inside))
      unfold labelText at there
      split at there
      · next ascii =>
        exact isDomainChar_of_isPlain (own c there) (List.all_eq_true.mp ascii c there)
      · obtain mark | encoded := List.mem_append.mp there
        · have each : encodedMark.all isDomainChar = true := rfl
          exact List.all_eq_true.mp each c mark
        · obtain ⟨inside, ascii⟩ | rfl | digit := Punycode.mem_encode encoded
          · exact isDomainChar_of_isPlain (own c inside) ascii
          · decide
          · exact isDomainChar_digit digit
  · cases found

/-- **The reader of the program** is one that can be relied on. -/
theorem lawful : LawfulDomains canonical? where
  lowered := fun _ ascii => canonical?_ascii ascii
  allowed := fun _ _ found => isDomainChar_of_canonical? found

end Domain

end Url

end ReplicaWatch
