import ReplicaWatch.Proofs.Text.PercentCodes
import ReplicaWatch.Proofs.Url.Joining

/-! # References made of parts

A reference that is made of parts with slashes between them (`Url.joined`) is read as these parts
when no mark is in them and nothing blank at the ends (`Url.segmentsOf_joined`). For the converse
the bytes are counted that a path stands for (`Url.weight`). Taking a segment adds at most its own
bytes to the path. So if a path got all bytes of the parts, no character of theirs was lost on the
way to it, as each mark and each blank at the end would be (`Url.kept_of_weight`,
`Url.printed_of_kept`).
-/

namespace ReplicaWatch.Url

open Text

/-! ## Parts -/

/-- Parts with slashes between them. -/
def joined : List (List Char) → List Char
  | [] => []
  | [part] => part
  | part :: next :: rest => part ++ '/' :: joined (next :: rest)

variable {parts : List (List Char)}

/-- A reference has nothing but slashes and the characters of its parts. -/
theorem mem_joined {c : Char} (member : c ∈ joined parts) : c = '/' ∨ ∃ part ∈ parts, c ∈ part := by
  fun_induction joined parts with
  | case1 => cases member
  | case2 part => exact .inr ⟨part, List.mem_cons_self, member⟩
  | case3 part next rest ih =>
    obtain own | behind := List.mem_append.mp member
    · exact .inr ⟨part, List.mem_cons_self, own⟩
    · obtain rfl | later := List.mem_cons.mp behind
      · exact .inl rfl
      · obtain slash | ⟨other, listed, there⟩ := ih later
        · exact .inl slash
        · exact .inr ⟨other, List.mem_cons_of_mem part listed, there⟩

/-- A reference ends as its last part does. -/
theorem getLast?_joined {last : List Char} (nonempty : last ≠ [])
    (ends : parts.getLast? = some last) :
    (joined parts).getLast? = last.getLast? := by
  fun_induction joined parts with
  | case1 => cases ends
  | case2 part =>
    obtain rfl := Option.some.inj ends
    rfl
  | case3 part next rest ih =>
    rw [List.getLast?_cons_cons] at ends
    have later := ih ends
    rw [List.getLast?_eq_getLast_of_ne_nil nonempty] at later ⊢
    rw [List.getLast?_append, List.getLast?_cons, later]
    rfl

/-- The slashes are marks. -/
theorem filter_joined (parts : List (List Char)) :
    (joined parts).filter (· ∉ marks) = parts.flatten.filter (· ∉ marks) := by
  fun_induction joined parts with
  | case1 => rfl
  | case2 part => rw [List.flatten_cons, List.flatten_nil, List.append_nil]
  | case3 part next rest ih =>
    rw [List.filter_append, List.filter_cons_of_neg (by decide), ih, ← List.filter_append]
    rfl

/-- Parts without marks come apart where they were joined. -/
theorem splitSlashes_joined (nonempty : parts ≠ [])
    (unmarked : ∀ part ∈ parts, ∀ c ∈ part, c ∉ marks) :
    splitSlashes true (joined parts) = parts := by
  have whole {part : List Char} (unmarked : ∀ c ∈ part, c ∉ marks) :
      ∀ c ∈ part, isSlash true c = false :=
    fun c member => (not_mem_marks_iff.mp (unmarked c member)).1
  fun_induction joined parts with
  | case1 => cases nonempty rfl
  | case2 part => exact List.splitOnP_eq_singleton (whole (unmarked part List.mem_cons_self))
  | case3 part next rest ih =>
    obtain ⟨own, unmarked⟩ := List.forall_mem_cons.mp unmarked
    rw [splitSlashes, List.splitOnP_append_cons_of_forall_mem (whole own) '/' rfl]
    exact congrArg (part :: ·) (ih (List.cons_ne_nil _ _) unmarked)

/-- Nothing is dropped from a text without breaks that is blank at neither end. -/
theorem cleaned_eq_self {cs : List Char} (first : ∀ c ∈ cs.head?, 0x20 < c.toNat)
    (last : ∀ c ∈ cs.getLast?, 0x20 < c.toNat) (unbroken : ∀ c ∈ cs, isBreak c = false) :
    cleaned cs = cs := by
  cases cs with
  | nil => rfl
  | cons c others =>
    have kept : (c :: others).rdropWhile (fun c => decide (c.toNat ≤ 0x20)) = c :: others := by
      rw [List.rdropWhile_eq_self_iff]
      intro nonempty
      simpa using last _ (List.getLast?_eq_getLast_of_ne_nil nonempty)
    rw [cleaned_cons (first c rfl), kept, List.filter_eq_self]
    exact fun c member => by rw [unbroken c member]; rfl

/-- A text without a mark is all in front of it. -/
theorem takeWhile_ne_of_unmarked {cs : List Char} {mark : Char} (absent : mark ∉ cs) :
    cs.takeWhile (· != mark) = cs := by
  rw [List.takeWhile_eq_self_iff]
  exact fun c member => bne_iff_ne.mpr fun same => absent (same ▸ member)

/-- Parts without marks are the segments of the reference that is made of them. -/
theorem segmentsOf_joined (nonempty : parts ≠ [])
    (unmarked : ∀ part ∈ parts, ∀ c ∈ part, c ∉ marks)
    (first : ∀ c ∈ (joined parts).head?, 0x20 < c.toNat)
    (last : ∀ c ∈ (joined parts).getLast?, 0x20 < c.toNat) :
    segmentsOf (joined parts) = parts ∧
      (Tail.split (cleaned (joined parts))).query = none := by
  have slash : ∀ c ∈ joined parts, c ∉ marks ∨ c = '/' := by
    intro c member
    obtain slash | ⟨part, listed, there⟩ := mem_joined member
    · exact .inr slash
    · exact .inl (unmarked part listed c there)
  have clean : cleaned (joined parts) = joined parts := by
    refine cleaned_eq_self first last fun c member => ?_
    obtain unmarked | rfl := slash c member
    · exact (not_mem_marks_iff.mp unmarked).2.2.2
    · rfl
  have absent {mark : Char} (marked : mark ∈ marks) (other : mark ≠ '/') : mark ∉ joined parts :=
    fun member => (slash mark member).elim (fun unmarked => unmarked marked) other
  have fragment := takeWhile_ne_of_unmarked (@absent '#' (by decide) (by decide))
  have query := @absent '?' (by decide) (by decide)
  constructor
  · rw [segmentsOf, clean, Tail.split, fragment, takeWhile_ne_of_unmarked query]
    exact splitSlashes_joined nonempty unmarked
  · have none : (joined parts).dropWhile (· != '?') = [] := by
      rw [List.dropWhile_eq_nil_iff]
      exact fun c member => bne_iff_ne.mpr fun same => query (same ▸ member)
    rw [clean, Tail.split, fragment, behind?, none]

/-- Segments that are no dots are put below the path as they are. -/
theorem addSegments_undotted {segments : List (List Char)}
    (undotted : ∀ segment ∈ segments, isDoubleDot segment = false ∧ isSingleDot segment = false)
    (path : List String) : addSegments path segments = path ++ segments.map segmentText := by
  have none : leftBehind segments = [] := by
    cases ends : segments.getLast? with
    | none => rw [leftBehind, ends]; rfl
    | some last =>
      obtain ⟨double, single⟩ := undotted last (List.mem_of_getLast? ends)
      rw [leftBehind, ends, Option.any_some, double, single]
      rfl
  rw [addSegments_eq_foldl, none, List.append_nil]
  clear none
  induction segments generalizing path with
  | nil => exact (List.append_nil path).symm
  | cons segment rest ih =>
    obtain ⟨⟨double, single⟩, undotted⟩ := List.forall_mem_cons.mp undotted
    rw [List.foldl_cons, ih undotted, taken, double, single, List.map_cons]
    exact List.append_assoc path [segmentText segment] _

/-! ## Weight -/

/-- The number of bytes that the parts of a path stand for. -/
def weight (path : List String) : Nat :=
  (path.flatMap fun part => percentDecode part.toList).length

theorem weight_append (path more : List String) :
    weight (path ++ more) = weight path + weight more := by
  rw [weight, List.flatMap_append, List.length_append, weight, weight]

theorem weight_cons (part : String) (path : List String) :
    weight (part :: path) = (percentDecode part.toList).length + weight path := by
  rw [weight, List.flatMap_cons, List.length_append, weight]

/-- The digits of a percent code are none of the characters that a path encodes. -/
theorem encodedInPath_of_hexValue? {c : Char} (digit : (hexValue? c).isSome = true) :
    encodedInPath c = false := by
  have range := range_of_hexValue? digit
  rw [Bool.eq_false_iff]
  intro encoded
  simp only [encodedInPath, encodedInFragment, isControl, Bool.or_eq_true, decide_eq_true_eq,
    beq_iff_eq, List.contains_iff_mem, List.mem_cons, List.not_mem_nil, or_false] at encoded
  obtain (control | special) | special := encoded
  · omega
  · obtain rfl | rfl | rfl | rfl | rfl := special <;> simp at range
  · obtain rfl | rfl | rfl | rfl | rfl := special <;> simp at range

/-- No segment stands for other bytes once it is in a path. -/
theorem percentDecode_segmentText (segment : List Char) :
    percentDecode (segmentText segment).toList = percentDecode segment := by
  rw [segmentText, String.toList_ofList,
    percentDecode_percentEncode (fun _ => encodedInPath_of_hexValue?) rfl]

/-- Going up adds no bytes. -/
theorem weight_dropLast_le (path : List String) : weight path.dropLast ≤ weight path := by
  cases path using List.reverseRecOn with
  | nil => exact Nat.le_refl _
  | append_singleton front last =>
    rw [List.dropLast_concat, weight_append]
    exact Nat.le_add_right _ _

/-- A segment adds no more than its own bytes. -/
theorem weight_taken_le (path : List String) (segment : List Char) :
    weight (taken path segment) ≤ weight path + (utf8Bytes segment).length := by
  unfold taken
  split
  · exact Nat.le_trans (weight_dropLast_le path) (Nat.le_add_right _ _)
  · split
    · exact Nat.le_add_right _ _
    · have bytes := length_percentDecode_le segment
      rw [weight_append, weight_cons, percentDecode_segmentText]
      exact Nat.add_le_add_left bytes _

theorem weight_foldl_taken_le (path : List String) (segments : List (List Char)) :
    weight (segments.foldl taken path) ≤ weight path + (utf8Bytes segments.flatten).length := by
  induction segments generalizing path with
  | nil => exact Nat.le_refl _
  | cons segment rest ih =>
    have first := weight_taken_le path segment
    have later := ih (taken path segment)
    rw [List.foldl_cons, List.flatten_cons, utf8Bytes_append, List.length_append]
    omega

/-- The empty part that a path may end with weighs nothing. -/
theorem weight_addSegments (path : List String) (segments : List (List Char)) :
    weight (addSegments path segments) = weight (segments.foldl taken path) := by
  have behind : weight (leftBehind segments) = 0 := by
    unfold leftBehind
    split <;> rfl
  rw [addSegments_eq_foldl, weight_append, behind]
  rfl

/-- A path gets no more bytes than the segments have that are added to it. -/
theorem weight_addSegments_le (path : List String) (segments : List (List Char)) :
    weight (addSegments path segments) ≤ weight path + (utf8Bytes segments.flatten).length := by
  rw [weight_addSegments]
  exact weight_foldl_taken_le path segments

/-- It gets none from a segment of dots. -/
theorem weight_addSegments_dotted {segment : List Char}
    (dotted : (isDoubleDot segment || isSingleDot segment) = true) (path : List String)
    (before after : List (List Char)) :
    weight (addSegments path (before ++ segment :: after)) ≤
      weight path + (utf8Bytes before.flatten).length + (utf8Bytes after.flatten).length := by
  have front := weight_foldl_taken_le path before
  have dots : weight (taken (before.foldl taken path) segment) ≤
      weight (before.foldl taken path) := by
    unfold taken
    split
    · exact weight_dropLast_le _
    · split
      · exact Nat.le_refl _
      · next double single => simp [double, single] at dotted
  have behind := weight_foldl_taken_le (taken (before.foldl taken path) segment) after
  rw [weight_addSegments, List.foldl_append, List.foldl_cons]
  omega

/-! ## What is lost -/

/-- What is split off is dropped, and all else is kept. -/
theorem flatten_splitOnP (p : Char → Bool) (cs : List Char) :
    (cs.splitOnP p).flatten = cs.filter fun c => !p c := by
  induction cs with
  | nil => rfl
  | cons c cs ih =>
    rw [List.splitOnP_cons_eq_if_modifyHead]
    split
    · next ends => rw [List.filter_cons_of_neg (by simp [ends]), ← ih, List.flatten_cons]; rfl
    · next stays =>
      obtain ⟨first, others, parts⟩ := List.exists_cons_of_ne_nil (List.splitOnP_ne_nil p cs)
      rw [List.filter_cons_of_pos (by simp [stays]), ← ih, parts]
      rfl

/-- The segments of a reference hold together no more than what is left of it without the marks. -/
theorem flatten_segmentsOf_sublist (reference : List Char) :
    (segmentsOf reference).flatten.Sublist ((cleaned reference).filter (· ∉ marks)) := by
  have path : (Tail.split (cleaned reference)).path.Sublist (cleaned reference) :=
    (List.takeWhile_sublist _).trans (List.takeWhile_sublist _)
  have unmarked : ∀ c ∈ (segmentsOf reference).flatten, c ∉ marks := by
    intro c member
    obtain ⟨segment, listed, there⟩ := List.mem_flatten.mp member
    simpa using List.of_mem_filter ((mem_segmentsOf listed).subset there)
  have inside : (segmentsOf reference).flatten.Sublist (cleaned reference) := by
    rw [segmentsOf, splitSlashes, flatten_splitOnP]
    exact List.filter_sublist.trans path
  have whole : (segmentsOf reference).flatten.filter (· ∉ marks) = (segmentsOf reference).flatten :=
    List.filter_eq_self.mpr fun c member => decide_eq_true (unmarked c member)
  rw [← whole]
  exact inside.filter _

/-- If a path gets all bytes of the parts that a reference is made of, they are without marks, and
all of their characters are left of the reference. -/
theorem kept_of_weight {path written : List String}
    (added : addSegments path (segmentsOf (joined parts)) = path ++ written)
    (heavy : (utf8Bytes parts.flatten).length ≤ weight written) :
    (∀ part ∈ parts, ∀ c ∈ part, c ∉ marks) ∧
      (cleaned (joined parts)).filter (· ∉ marks) = parts.flatten := by
  have light := weight_addSegments_le path (segmentsOf (joined parts))
  rw [added, weight_append] at light
  have left := flatten_segmentsOf_sublist (joined parts)
  have unmarked : ((cleaned (joined parts)).filter (· ∉ marks)).Sublist
      (parts.flatten.filter (· ∉ marks)) := by
    rw [← filter_joined]
    exact (cleaned_sublist _).filter _
  have all : (segmentsOf (joined parts)).flatten = parts.flatten :=
    eq_of_length_utf8Bytes_le (left.trans (unmarked.trans List.filter_sublist)) (by omega)
  rw [all] at left
  have kept : (cleaned (joined parts)).filter (· ∉ marks) = parts.flatten :=
    (unmarked.trans List.filter_sublist).antisymm left
  refine ⟨fun part listed c there => ?_, kept⟩
  have member : c ∈ parts.flatten := List.mem_flatten.mpr ⟨part, listed, there⟩
  rw [← kept] at member
  simpa using List.of_mem_filter member

/-- A text of which all characters are left does not end in a blank. -/
theorem printed_of_kept {first : Char} (printed : 0x20 < first.toNat) {others : List Char}
    (kept : (cleaned (first :: others)).filter (· ∉ marks) = (first :: others).filter (· ∉ marks)) :
    ∀ c ∈ (first :: others).getLast?, c ∉ marks → 0x20 < c.toNat := by
  intro c last unmarked
  obtain ⟨front, shape⟩ := List.getLast?_eq_some_iff.mp last
  by_contra blank
  have dropped : (cleaned (first :: others)).Sublist front := by
    rw [cleaned_cons printed, shape, List.rdropWhile_concat_pos _ _ _ (by simpa using blank)]
    exact List.filter_sublist.trans (List.rdropWhile_prefix _ _).sublist
  have fewer := (dropped.filter (· ∉ marks)).length_le
  rw [kept, shape, List.filter_append, List.filter_cons_of_pos (by simpa using unmarked),
    List.length_append, List.length_cons] at fewer
  omega

end ReplicaWatch.Url
