import ReplicaWatch.Proofs.Duration.Terms

/-! # What can be read as a duration

A text spells a number of nanoseconds when it is a bare `0`, or one or more terms that are worth so
much together (`Spells`). A text is read as just the durations that it spells, and what spells more
than the longest duration is refused (`read_iff_spells`).
-/

namespace ReplicaWatch.Duration

/-- A text with nothing blank around it spells a number of nanoseconds. -/
inductive Spells : List Char → Nat → Prop where
  | zero : Spells ['0'] 0
  | terms {terms : List Term} (some : terms ≠ []) : Spells (texts terms) (total terms)

/-- A duration is the one of its own nanoseconds. -/
theorem ofNanos?_nanos (d : Duration) : ofNanos? d.nanos = some d := dif_pos d.nanos_lt

/-- A duration that is found for a number is worth that number. -/
theorem nanos_of_ofNanos? {n : Nat} {d : Duration} (found : ofNanos? n = some d) : d.nanos = n := by
  unfold ofNanos? at found
  split at found
  · cases found
    rfl
  · cases found

theorem limit_lt_wideLimit : limit < wideLimit := by decide

theorem texts_ne_nil {terms : List Term} (some : terms ≠ []) : texts terms ≠ [] := by
  obtain ⟨term, others, rfl⟩ := List.exists_cons_of_ne_nil some
  exact List.append_ne_nil_of_left_ne_nil term.text_ne_nil (texts others)

/-- A digit alone is no text of terms: every term names its unit. -/
theorem texts_ne_zero (terms : List Term) : texts terms ≠ ['0'] := by
  intro same
  cases terms with
  | nil => cases same
  | cons term others =>
    obtain ⟨c, member⟩ :=
      List.exists_mem_of_ne_nil _ (TimeUnit.toList_ne_nil_of_mem_names term.named)
    have shown : c ∈ texts (term :: others) :=
      List.mem_append_left _ (List.mem_append_right _ (List.mem_append_right _ member))
    rw [same, List.mem_singleton] at shown
    have unit := TimeUnit.isUnitChar_of_mem_names term.named c member
    rw [shown] at unit
    cases unit

variable {text : String}

/-- **Reading what is spelled.** A sum that the reader cannot hold is out of range in any case. -/
theorem read_of_spells {n : Nat} (spells : Spells (Text.trimChars text.toList) n) :
    read text = (ofNanos? n).elim (.error .outOfRange) .ok := by
  unfold read
  generalize Text.trimChars text.toList = cs at spells ⊢
  cases spells with
  | zero => rfl
  | @terms terms some =>
    have present : ¬(texts terms).isEmpty = true := by
      rw [List.isEmpty_iff]
      exact texts_ne_nil some
    dsimp only
    rw [if_neg present, if_neg (texts_ne_zero terms), sumTerms_texts terms (by decide),
      Nat.zero_add]
    by_cases held : total terms < wideLimit
    · rw [if_pos held]
    · have tooLong : ¬total terms < limit := fun less => held (Nat.lt_trans less limit_lt_wideLimit)
      rw [if_neg held, ofNanos?, dif_neg tooLong]
      rfl

/-- A text that is read spells the duration that is read. -/
theorem spells_of_read {d : Duration} (read : read text = .ok d) :
    Spells (Text.trimChars text.toList) d.nanos := by
  unfold Duration.read at read
  generalize Text.trimChars text.toList = cs at read ⊢
  dsimp only at read
  split at read
  · cases read
  · next some =>
    split at read
    · next zero =>
      cases read
      rw [zero]
      exact .zero
    · split at read
      · cases read
      · next n summed =>
        obtain ⟨terms, rfl, rfl⟩ := exists_terms_of_sumTerms summed
        have found : ofNanos? (0 + total terms) = .some d := by
          cases found : ofNanos? (0 + total terms) with
          | none =>
            rw [found] at read
            cases read
          | some other =>
            rw [found] at read
            cases read
            rfl
        rw [nanos_of_ofNanos? found, Nat.zero_add]
        refine .terms ?_
        rintro rfl
        exact some rfl

/-- **What can be read.** A text is read as a duration just when, with the blanks around it cut off,
it spells that duration: it is a bare `0`, or one or more terms whose values, each cut to whole
nanoseconds, sum up to it. Of the texts that spell anything, just those are refused that spell more
than `2 ^ 64 - 1` seconds and 999 999 999 nanoseconds. -/
theorem read_iff_spells (text : String) :
    (∀ d, read text = .ok d ↔ Spells (Text.trimChars text.toList) d.nanos) ∧
      ∀ n, Spells (Text.trimChars text.toList) n →
        ((∃ fault, read text = .error fault) ↔ (2 ^ 64 - 1) * 1000000000 + 999999999 < n) := by
  constructor
  · intro d
    refine ⟨spells_of_read, fun spells => ?_⟩
    rw [read_of_spells spells, ofNanos?_nanos]
    rfl
  · intro n spells
    have bound : limit = (2 ^ 64 - 1) * 1000000000 + 999999999 + 1 := by decide
    rw [read_of_spells spells, ofNanos?]
    by_cases short : n < limit
    · rw [dif_pos short]
      constructor
      · rintro ⟨fault, ⟨⟩⟩
      · intro long
        omega
    · rw [dif_neg short]
      refine ⟨fun _ => ?_, fun _ => ⟨.outOfRange, rfl⟩⟩
      omega

/-- Two terms that are both short enough, and together one nanosecond too long. -/
private def overlong : List Term :=
  [⟨"18446744073709551615".toList, some ['9'], .second, "s", List.all_eq_true.mp (by decide),
      List.all_eq_true.mp (by decide), by decide, by decide⟩,
    ⟨[], some ['1'], .second, "s", nofun, List.all_eq_true.mp (by decide), by decide, by decide⟩]

/-- The terms carry over into one nanosecond too many. -/
private theorem total_overlong : total overlong = 2 ^ 64 * 1000000000 := by
  unfold total
  rw [List.map_congr_left fun term _ => term.nanos_eq]
  decide

/-- A text can spell more than the longest duration, and then it is refused. -/
theorem read_iff_spells_overlong :
    Spells (Text.trimChars "\t18446744073709551615.9s.1s ".toList) (2 ^ 64 * 1000000000) ∧
      ((∃ fault, read "\t18446744073709551615.9s.1s " = .error fault) ↔
        (2 ^ 64 - 1) * 1000000000 + 999999999 < 2 ^ 64 * 1000000000) := by
  have spelled : Text.trimChars "\t18446744073709551615.9s.1s ".toList = texts overlong := by decide
  have spells : Spells (Text.trimChars "\t18446744073709551615.9s.1s ".toList)
      (2 ^ 64 * 1000000000) := by
    rw [spelled, ← total_overlong]
    exact .terms (by decide)
  exact ⟨spells, (read_iff_spells _).2 _ spells⟩

end ReplicaWatch.Duration
