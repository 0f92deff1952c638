import Mathlib.Data.List.DropRight
import Mathlib.Data.List.Infix
import Mathlib.Data.List.TakeWhile
import ReplicaWatch.Proofs.Success
import ReplicaWatch.Url.Reading

/-! # Joined URLs

A reference that names no scheme is joined by taking its segments one at a time (`Url.taken`): what
results keeps a front of the base's path, and everything behind that front was named by the
reference (`Url.addSegments_kept`). The whole of the base's path is kept by a reference that never
leads above the level it starts on (`Url.addSegments_within`).
-/

namespace ReplicaWatch

/-- Fewer characters are encoded in fewer. -/
theorem Text.length_percentEncode (encoded : Char → Bool) {part whole : List Char}
    (sub : part.Sublist whole) :
    (percentEncode encoded part).length + whole.length ≤
      (percentEncode encoded whole).length + part.length := by
  induction sub with
  | slnil => exact le_rfl
  | @cons part whole c _ ih =>
    have written : 0 < (if isAscii c && !encoded c then [c] else percentChar c).length := by
      split
      · exact Nat.one_pos
      · have bytes : String.utf8EncodeChar c ≠ [] := String.utf8EncodeChar_ne_nil
        cases listed : String.utf8EncodeChar c with
        | nil => exact absurd listed bytes
        | cons b rest => simp [percentChar, listed, percentByte]
    simp only [percentEncode, List.flatMap_cons, List.length_append, List.length_cons] at ih ⊢
    omega
  | @cons_cons part whole c _ ih =>
    simp only [percentEncode, List.flatMap_cons, List.length_append, List.length_cons] at ih ⊢
    omega

namespace Url

/-! ## Segments -/

/-- The path once a segment is taken. -/
def taken (path : List String) (segment : List Char) : List String :=
  if isDoubleDot segment then path.dropLast
  else if isSingleDot segment then path
  else path ++ [segmentText segment]

/-- The empty segment that a final `.` or `..` leaves behind. -/
def leftBehind (segments : List (List Char)) : List String :=
  if segments.getLast?.any fun last => isDoubleDot last || isSingleDot last then [""] else []

/-- Only the last segment can leave an empty one behind. -/
theorem leftBehind_cons (segment : List Char) {rest : List (List Char)} (more : rest ≠ []) :
    leftBehind (segment :: rest) = leftBehind rest := by
  obtain ⟨next, later, rfl⟩ := List.exists_cons_of_ne_nil more
  rw [leftBehind, List.getLast?_cons_cons, leftBehind]

/-- Segments are taken one at a time, and dots at the end leave an empty one behind. -/
theorem addSegments_eq_foldl (path : List String) (segments : List (List Char)) :
    addSegments path segments = segments.foldl taken path ++ leftBehind segments := by
  fun_induction addSegments path segments with
  | case1 => simp [leftBehind]
  | case2 path last double => simp [taken, leftBehind, double]
  | case3 path last double single => simp [taken, leftBehind, double, single]
  | case4 path last double single => simp [taken, leftBehind, double, single]
  | case5 path segment rest more double ih =>
    rw [ih, leftBehind_cons segment more, List.foldl_cons, taken, if_pos double]
  | case6 path segment rest more double single ih =>
    rw [ih, leftBehind_cons segment more, List.foldl_cons, taken, if_neg double, if_pos single]
  | case7 path segment rest more double single ih =>
    rw [ih, leftBehind_cons segment more, List.foldl_cons, taken, if_neg double, if_neg single]

/-- Taking segments keeps a front of the path. What is behind it are some of those segments. -/
theorem foldl_taken_kept (segments : List (List Char)) (path : List String) :
    ∃ kept added, kept <+: path ∧ segments.foldl taken path = kept ++ added ∧
      ∀ part ∈ added, ∃ segment ∈ segments, part = segmentText segment := by
  induction segments generalizing path with
  | nil => exact ⟨path, [], List.prefix_rfl, (List.append_nil path).symm, nofun⟩
  | cons segment rest ih =>
    obtain ⟨kept, added, front, same, named⟩ := ih (taken path segment)
    have later : ∀ part ∈ added, ∃ named ∈ segment :: rest, part = segmentText named := by
      intro part member
      obtain ⟨other, inside, same⟩ := named part member
      exact ⟨other, List.mem_cons_of_mem segment inside, same⟩
    rw [List.foldl_cons, same]
    unfold taken at front
    split at front
    · exact ⟨kept, added, front.trans path.dropLast_prefix, rfl, later⟩
    · split at front
      · exact ⟨kept, added, front, rfl, later⟩
      · obtain all | front := List.prefix_concat_iff.mp front
        · refine ⟨path, segmentText segment :: added, List.prefix_rfl, by simp [all], ?_⟩
          intro part member
          obtain rfl | member := List.mem_cons.mp member
          · exact ⟨segment, List.mem_cons_self, rfl⟩
          · exact later part member
        · exact ⟨kept, added, front, rfl, later⟩

/-- Adding segments keeps a front of the path. What is behind it was named by a segment, but for the
empty segment at the end. -/
theorem addSegments_kept (path : List String) (segments : List (List Char)) :
    ∃ kept added, kept <+: path ∧ addSegments path segments = kept ++ added ∧
      ∀ part ∈ added, part = "" ∨ ∃ segment ∈ segments, part = segmentText segment := by
  obtain ⟨kept, added, front, same, named⟩ := foldl_taken_kept segments path
  refine ⟨kept, added ++ leftBehind segments, front, ?_, ?_⟩
  · rw [addSegments_eq_foldl, same, List.append_assoc]
  · intro part member
    obtain member | member := List.mem_append.mp member
    · exact .inr (named part member)
    · unfold leftBehind at member
      split at member
      · exact .inl (List.mem_singleton.mp member)
      · cases member

/-- Whether segments never lead above the level that is `depth` levels up from where they start. -/
def staysWithin : Nat → List (List Char) → Bool
  | _, [] => true
  | depth, segment :: rest =>
    if isDoubleDot segment then
      match depth with
      | 0 => false
      | depth + 1 => staysWithin depth rest
    else if isSingleDot segment then staysWithin depth rest
    else staysWithin (depth + 1) rest

/-- Segments that stay within some parts above a path leave the path alone. -/
theorem foldl_taken_within {segments : List (List Char)} {above : List String} (path : List String)
    (within : staysWithin above.length segments = true) :
    ∃ added, segments.foldl taken (path ++ above) = path ++ added := by
  induction segments generalizing above with
  | nil => exact ⟨above, rfl⟩
  | cons segment rest ih =>
    rw [List.foldl_cons, taken]
    unfold staysWithin at within
    split at within
    · next double =>
      rw [if_pos double]
      cases above using List.reverseRecOn with
      | nil => cases within
      | append_singleton above last =>
        rw [List.length_append] at within
        rw [← List.append_assoc, List.dropLast_concat]
        exact ih within
    · next double =>
      rw [if_neg double]
      split at within
      · next single =>
        rw [if_pos single]
        exact ih within
      · next single =>
        rw [if_neg single, List.append_assoc]
        exact ih (by rwa [List.length_append])

/-- A path is kept by segments that do not lead above where they start. -/
theorem addSegments_within {segments : List (List Char)} (path : List String)
    (within : staysWithin 0 segments = true) :
    ∃ added, addSegments path segments = path ++ added := by
  have start : staysWithin ([] : List String).length segments = true := within
  obtain ⟨added, same⟩ := foldl_taken_within path start
  rw [List.append_nil] at same
  exact ⟨added ++ leftBehind segments, by rw [addSegments_eq_foldl, same, List.append_assoc]⟩

/-- A segment that starts with neither a point nor a percent sign is no dots. -/
theorem undotted {c : Char} (own : c.toLower ≠ '.' ∧ c.toLower ≠ '%') (rest : List Char) :
    isDoubleDot (c :: rest) = false ∧ isSingleDot (c :: rest) = false := by
  constructor
  · simp [isDoubleDot, String.ext_iff, own]
  · simp [isSingleDot, String.ext_iff, own]

/-- A segment that starts with neither a point nor a percent sign is put below the path. -/
theorem addSegments_closed {first : Char} (own : first.toLower ≠ '.' ∧ first.toLower ≠ '%')
    (path : List String) (others : List Char) :
    addSegments path [first :: others, []] = path ++ [segmentText (first :: others), ""] := by
  obtain ⟨double, single⟩ := undotted own others
  have below : addSegments path [first :: others, []] =
      addSegments (path ++ [segmentText (first :: others)]) [[]] := by
    simp [addSegments, double, single]
  exact below.trans (List.append_assoc path _ [""])

/-! ## References -/

/-- Whether a character is dropped wherever it stands. -/
def isBreak (c : Char) : Bool := c == '\t' || c == '\n' || c == '\r'

/-- The characters that end a segment of a reference, or are dropped from it. -/
def marks : List Char := ['/', '\\', '?', '#', '\t', '\n', '\r']

/-- The marks are the slashes, what ends a path, and the breaks that are dropped. -/
theorem not_mem_marks_iff {c : Char} :
    c ∉ marks ↔ isSlash true c = false ∧ c ≠ '?' ∧ c ≠ '#' ∧ isBreak c = false := by
  simp [marks, isSlash, isBreak, and_assoc]

/-- Cleaning a reference only drops characters. -/
theorem cleaned_sublist (cs : List Char) : (cleaned cs).Sublist cs :=
  List.filter_sublist.trans
    ((List.rdropWhile_prefix _ _).sublist.trans (List.dropWhile_sublist _))

/-- In a reference that starts with a printed character only the end is trimmed. -/
theorem cleaned_cons {first : Char} (printed : 0x20 < first.toNat) (others : List Char) :
    cleaned (first :: others) =
      ((first :: others).rdropWhile (·.toNat ≤ 0x20)).filter fun c => !isBreak c := by
  rw [cleaned, List.dropWhile_cons_of_neg (by simpa using printed)]
  rfl

/-- Only breaks are dropped between a printed character and a slash. -/
theorem cleaned_closed {first : Char} (printed : 0x20 < first.toNat) (others : List Char) :
    cleaned (first :: others ++ ['/']) =
      (first :: others ++ ['/']).filter fun c => !isBreak c := by
  have kept : (first :: others ++ ['/']).rdropWhile (·.toNat ≤ 0x20) = first :: others ++ ['/'] :=
    List.rdropWhile_concat_neg _ _ _ (by decide)
  rw [List.cons_append] at kept ⊢
  rw [cleaned_cons printed, kept]

/-- What is dropped from the end stops at a part with nothing to drop. -/
theorem rdropWhile_append {p : Char → Bool} {lead : List Char} (solid : ∀ c ∈ lead, p c = false)
    (rest : List Char) : ∃ more, (lead ++ rest).rdropWhile p = lead ++ more := by
  induction rest using List.reverseRecOn with
  | nil =>
    refine ⟨[], ?_⟩
    rw [List.append_nil, List.rdropWhile_eq_self_iff]
    intro some
    simp [solid _ (List.getLast_mem some)]
  | append_singleton rest last ih =>
    rw [← List.append_assoc, List.rdropWhile_concat]
    split
    · exact ih
    · exact ⟨rest ++ [last], List.append_assoc _ _ _⟩

/-- Nothing is dropped from a printed front of a reference. -/
theorem cleaned_append {first : Char} {others : List Char}
    (printed : ∀ c ∈ first :: others, 0x20 < c.toNat) (rest : List Char) :
    ∃ more, cleaned (first :: others ++ rest) = first :: others ++ more := by
  obtain ⟨more, same⟩ : ∃ more,
      (first :: others ++ rest).rdropWhile (·.toNat ≤ 0x20) = first :: others ++ more :=
    rdropWhile_append (fun c member => by simpa using printed c member) rest
  have unbroken : (first :: others).filter (fun c => !isBreak c) = first :: others := by
    rw [List.filter_eq_self]
    intro c member
    have visible := printed c member
    by_contra broken
    simp only [isBreak, Bool.not_eq_true', Bool.not_eq_false, Bool.or_eq_true, beq_iff_eq] at broken
    obtain (rfl | rfl) | rfl := broken <;> contradiction
  refine ⟨more.filter fun c => !isBreak c, ?_⟩
  rw [List.cons_append] at same ⊢
  rw [cleaned_cons (printed first List.mem_cons_self), same, List.filter_append, unbroken]

/-- The segments that a reference names where a backslash is a slash. -/
def segmentsOf (reference : List Char) : List (List Char) :=
  splitSlashes true (Tail.split (cleaned reference)).path

/-- A part has no characters but those of the whole that split nothing. -/
theorem mem_splitOnP {p : Char → Bool} {cs part : List Char} (member : part ∈ cs.splitOnP p) :
    part.Sublist (cs.filter fun c => !p c) := by
  induction cs generalizing part with
  | nil =>
    obtain rfl := List.mem_singleton.mp member
    exact List.Sublist.slnil
  | cons c cs ih =>
    rw [List.splitOnP_cons_eq_if_modifyHead] at member
    split at member
    · next ends =>
      rw [List.filter_cons_of_neg (by simp [ends])]
      obtain rfl | member := List.mem_cons.mp member
      · exact List.nil_sublist _
      · exact ih member
    · next stays =>
      rw [List.filter_cons_of_pos (by simp [stays])]
      obtain ⟨first, others, parts⟩ := List.exists_cons_of_ne_nil (List.splitOnP_ne_nil p cs)
      rw [parts, List.modifyHead_cons] at member
      rw [parts] at ih
      obtain rfl | member := List.mem_cons.mp member
      · exact (ih List.mem_cons_self).cons_cons c
      · exact (ih (List.mem_cons_of_mem first member)).cons c

/-- The segments of a reference are made of its characters, the marks left out. -/
theorem mem_segmentsOf {reference segment : List Char} (member : segment ∈ segmentsOf reference) :
    segment.Sublist (reference.filter (· ∉ marks)) := by
  have inside := mem_splitOnP member
  have path : (Tail.split (cleaned reference)).path.Sublist (cleaned reference) :=
    (List.takeWhile_sublist _).trans (List.takeWhile_sublist _)
  have unmarked : ∀ c ∈ segment, c ∉ marks := by
    intro c there
    obtain ⟨split, unslashed⟩ := List.mem_filter.mp (inside.subset there)
    have unqueried := List.mem_takeWhile_imp split
    have unfragmented := List.mem_takeWhile_imp ((List.takeWhile_sublist _).subset split)
    have unbroken := List.of_mem_filter (path.subset split)
    exact not_mem_marks_iff.mpr ⟨by simpa using unslashed, by simpa using unqueried,
      by simpa using unfragmented, by simpa [isBreak] using unbroken⟩
  have whole : segment.filter (· ∉ marks) = segment :=
    List.filter_eq_self.mpr fun c there => decide_eq_true (unmarked c there)
  rw [← whole]
  exact ((inside.trans List.filter_sublist).trans (path.trans (cleaned_sublist reference))).filter _

/-- A reference with one segment, closed by a slash, is read as it is. -/
theorem segmentsOf_closed {first : Char} {others : List Char} (printed : 0x20 < first.toNat)
    (unmarked : ∀ c ∈ first :: others, c ∉ marks) :
    cleaned (first :: others ++ ['/']) = first :: others ++ ['/'] ∧
      segmentsOf (first :: others ++ ['/']) = [first :: others, []] := by
  have clean : cleaned (first :: others ++ ['/']) = first :: others ++ ['/'] := by
    rw [cleaned_closed printed, List.filter_eq_self]
    intro c member
    obtain member | member := List.mem_append.mp member
    · obtain ⟨-, -, -, unbroken⟩ := not_mem_marks_iff.mp (unmarked c member)
      simp [unbroken]
    · obtain rfl := List.mem_singleton.mp member
      rfl
  have uncut (mark : Char) (marked : mark ∈ marks) (other : mark ≠ '/') :
      (first :: others ++ ['/']).takeWhile (· != mark) = first :: others ++ ['/'] := by
    rw [List.takeWhile_eq_self_iff]
    intro c member
    obtain member | member := List.mem_append.mp member
    · exact bne_iff_ne.mpr fun same => unmarked c member (same ▸ marked)
    · exact bne_iff_ne.mpr fun same => other (same.symm.trans (List.mem_singleton.mp member))
  have whole : (Tail.split (first :: others ++ ['/'])).path = first :: others ++ ['/'] := by
    rw [Tail.split, uncut '#' (by decide) (by decide), uncut '?' (by decide) (by decide)]
  refine ⟨clean, ?_⟩
  rw [segmentsOf, clean, whole, splitSlashes, List.splitOnP_append_cons_of_forall_mem _ '/' rfl]
  · rfl
  · exact fun c member => (not_mem_marks_iff.mp (unmarked c member)).1

/-- If a reference adds the segment it was made of, there are no marks in it. -/
theorem unmarked_of_addSegments {path : List String} {segment : List Char}
    (added : addSegments path (segmentsOf (segment ++ ['/'])) =
      path ++ [segmentText segment, ""]) : ∀ c ∈ segment, c ∉ marks := by
  obtain ⟨kept, behind, ⟨rest, rfl⟩, same, named⟩ :=
    addSegments_kept path (segmentsOf (segment ++ ['/']))
  rw [same, List.append_assoc, List.append_cancel_left_eq] at added
  subst added
  obtain empty | ⟨part, member, written⟩ := named (segmentText segment) (by simp)
  · have longer := Text.length_percentEncode encodedInPath (List.nil_sublist segment)
    rw [String.ofList_injective empty, List.length_nil] at longer
    obtain rfl : segment = [] := List.eq_nil_of_length_eq_zero (by omega)
    nofun
  · have inside := mem_segmentsOf member
    rw [List.filter_append, List.filter_cons_of_neg (by decide), List.filter_nil,
      List.append_nil] at inside
    -- Encoding need not be injective, but a part without the marks would be written in fewer
    -- characters than the whole segment.
    have longer := Text.length_percentEncode encodedInPath (inside.trans List.filter_sublist)
    rw [String.ofList_injective written, Nat.add_le_add_iff_left] at longer
    obtain rfl := (inside.trans List.filter_sublist).eq_of_length_le longer
    intro c there
    simpa using List.of_mem_filter (inside.subset there)

/-! ## Joining -/

variable {toAscii : DomainReader}

/-- What stands behind a scheme's slashes has that scheme. -/
theorem scheme_of_readBehindSlashes {scheme : String} {cs : List Char} {url : Url}
    (read : readBehindSlashes toAscii scheme cs = .ok url) : url.scheme = scheme := by
  obtain ⟨authority, -, read⟩ := bind_eq_ok.mp read
  cases read
  rfl

/-- A URL has the scheme that it is read behind. -/
theorem scheme_of_readBehindScheme {scheme : String} {cs : List Char} {url : Url}
    (read : readBehindScheme toAscii scheme cs = .ok url) : url.scheme = scheme := by
  unfold readBehindScheme at read
  split at read
  · exact scheme_of_readBehindSlashes read
  · split at read
    · exact scheme_of_readBehindSlashes read
    · cases read
      rfl

/-- A text that starts with a letter names a scheme just when its first character that cannot stand
in one is a colon. -/
theorem splitScheme?_eq_none {letter : Char} (alpha : letter.isAlpha = true) (cs : List Char) :
    splitScheme? (letter :: cs) = none ↔ (cs.dropWhile isSchemeChar).head? ≠ some ':' := by
  have inScheme : isSchemeChar letter = true := by simp [isSchemeChar, Char.isAlphanum, alpha]
  rw [splitScheme?, List.dropWhile_cons_of_pos inScheme, List.head?_cons]
  cases cs.dropWhile isSchemeChar with
  | nil => simp
  | cons c rest => by_cases colon : c = ':' <;> simp [colon, alpha]

/-- A scheme starts with the first letter of the text that names it. -/
theorem head?_of_splitScheme? {letter : Char} {cs rest : List Char} {scheme : String}
    (named : splitScheme? (letter :: cs) = some (scheme, rest)) :
    scheme.toList.head? = some letter.toLower := by
  unfold splitScheme? at named
  split at named
  · next first _ starts _ =>
    obtain rfl := Option.some.inj starts
    split at named
    · next alpha =>
      have inScheme : isSchemeChar letter = true := by simp [isSchemeChar, Char.isAlphanum, alpha]
      obtain ⟨rfl, -⟩ := Prod.mk.inj (Option.some.inj named)
      rw [String.toList_ofList, List.takeWhile_cons_of_pos inScheme]
      rfl
    · cases named
  · cases named

/-- A reference that names a scheme is not relative to the base. -/
theorem scheme_of_join {base url : Url} {reference rest : List Char} {scheme : String}
    (named : splitScheme? (cleaned reference) = some (scheme, rest))
    (joined : base.join toAscii reference = .ok url) : url.scheme = scheme := by
  rw [join, named] at joined
  exact scheme_of_readBehindScheme joined

/-- A reference that names no scheme is joined to the path of the base, and keeps its host. -/
theorem join_relative (base : Url) {reference : List Char} {parts : List String}
    (special : isSpecialScheme base.scheme = true)
    (path : base.path = .segments parts) (relative : splitScheme? (cleaned reference) = none) :
    base.join toAscii reference = .ok
      { base with
        path := .segments (addSegments parts.dropLast (segmentsOf reference))
        query := (Tail.split (cleaned reference)).queryText true
        fragment := (Tail.split (cleaned reference)).fragmentText } := by
  simp only [join, relative, readRelative, path, special]
  rfl

end Url

end ReplicaWatch
