import ReplicaWatch.Convergence.Session
import Mathlib.Data.Finset.Card

/-! # The stored places

A place is stored with each slot that has been seen (`PlaceMap`). That the places are the numbers
from 1 on, without gaps and without repeats, is not part of how they are stored: it is an invariant
(`PlaceMap.Numbered`), which holds of no places at all and is kept by each slot that is seen
(`PlaceMap.Numbered.note`), since the place that is handed out is one more than the number of those
that are stored. Seeing the slots of a listing stores the new ones behind all others
(`PlaceMap.entries_foldl_note`).
-/

namespace ReplicaWatch.PlaceMap

variable {places : PlaceMap} {slot other place : Nat}

/-- The slots that have a place, in the order in which they got it. -/
def slots (places : PlaceMap) : List Nat := places.entries.map Prod.fst

/-- No slot is stored twice, and the places that are stored are the numbers from 1 on, in the order
in which they were handed out. -/
structure Numbered (places : PlaceMap) : Prop where
  nodup : places.slots.Nodup
  entries : places.entries = places.slots.zipIdx 1

/-! ## Lookup -/

/-- A slot has a place just when it is stored. -/
theorem isSome_get?_iff : (places.get? slot).isSome = true ↔ slot ∈ places.slots := by
  rw [get?, List.lookup_isSome_iff, slots, List.mem_map]
  exact exists_congr fun entry => and_congr_right fun _ => beq_iff_eq.trans eq_comm

/-- Looking up a slot in a numbered list finds the number of the first place where it stands. -/
theorem lookup_zipIdx (listing : List Nat) (start slot : Nat) :
    (listing.zipIdx start).lookup slot =
      if slot ∈ listing then some (start + listing.idxOf slot) else none := by
  induction listing generalizing start with
  | nil => rfl
  | cons first rest ih =>
    rw [List.zipIdx_cons, List.lookup_cons]
    by_cases same : slot = first
    · rw [same, beq_self_eq_true, if_pos List.mem_cons_self, List.idxOf_cons_self]
      rfl
    · rw [beq_false_of_ne same, ih, List.idxOf_cons_ne rest (Ne.symm same)]
      simp only [List.mem_cons, same, false_or]
      split
      · rw [Nat.add_right_comm, Nat.add_assoc]
      · rfl

/-- In a numbered map the place of a slot tells how many slots were seen before it. -/
theorem Numbered.get?_eq_some_iff (numbered : places.Numbered) :
    places.get? slot = some place ↔ slot ∈ places.slots ∧ 1 + places.slots.idxOf slot = place := by
  rw [get?, numbered.entries, lookup_zipIdx]
  split
  · next member => simp only [member, true_and, Option.some.injEq]
  · next missing => simp only [missing, false_and, reduceCtorEq]

/-- No two slots share a place. -/
theorem Numbered.get?_injective (numbered : places.Numbered) (placed : places.get? slot = some place)
    (shared : places.get? other = some place) : slot = other := by
  obtain ⟨member, here⟩ := numbered.get?_eq_some_iff.mp placed
  obtain ⟨-, there⟩ := numbered.get?_eq_some_iff.mp shared
  exact (List.idxOf_inj member).mp (by omega)

/-- The places in a numbered map are the numbers from 1 to its size. -/
theorem Numbered.exists_get?_iff (numbered : places.Numbered) :
    (∃ slot, places.get? slot = some place) ↔ 1 ≤ place ∧ place ≤ places.size := by
  have length : places.slots.length = places.size := List.length_map Prod.fst
  constructor
  · rintro ⟨slot, placed⟩
    obtain ⟨member, rfl⟩ := numbered.get?_eq_some_iff.mp placed
    have within := List.idxOf_lt_length_iff.mpr member
    omega
  · rintro ⟨positive, within⟩
    have inside : place - 1 < places.slots.length := by omega
    refine ⟨places.slots[place - 1], numbered.get?_eq_some_iff.mpr ⟨List.getElem_mem inside, ?_⟩⟩
    rw [numbered.nodup.idxOf_getElem _ inside]
    omega

/-! ## Seeing slots -/

/-- A slot that has a place keeps it. -/
theorem note_of_mem (seen : slot ∈ places.slots) : places.note slot = places := by
  rw [note, insertNew, if_pos (isSome_get?_iff.mpr seen)]

/-- A new slot gets the next place, behind all others. -/
theorem entries_note (new : slot ∉ places.slots) :
    (places.note slot).entries = places.entries ++ [(slot, places.size + 1)] := by
  rw [note, insertNew, if_neg fun stored => new (isSome_get?_iff.mp stored)]

/-- It is the last of the slots that were seen. -/
theorem slots_note (new : slot ∉ places.slots) :
    (places.note slot).slots = places.slots ++ [slot] := by
  rw [slots, entries_note new, List.map_append]
  rfl

/-- There is then one place more. -/
theorem size_note (new : slot ∉ places.slots) : (places.note slot).size = places.size + 1 := by
  rw [size, entries_note new, List.length_append]
  rfl

theorem numbered_empty : empty.Numbered := ⟨List.nodup_nil, rfl⟩

/-- **One slot.** A numbered map stays so when a slot is seen. -/
theorem Numbered.note (numbered : places.Numbered) (slot : Nat) : (places.note slot).Numbered := by
  by_cases seen : slot ∈ places.slots
  · rw [note_of_mem seen]
    exact numbered
  · have next : 1 + places.slots.length = places.size + 1 := by
      rw [slots, List.length_map, size, Nat.add_comm]
    constructor
    · rw [slots_note seen, ← List.concat_eq_append]
      exact numbered.nodup.concat seen
    · rw [entries_note seen, slots_note seen, List.zipIdx_append, ← numbered.entries, next]
      rfl

/-- **A listing.** A numbered map stays so when the slots of a listing are seen. -/
theorem Numbered.foldl_note (numbered : places.Numbered) (listing : List Nat) :
    (listing.foldl PlaceMap.note places).Numbered := by
  induction listing generalizing places with
  | nil => exact numbered
  | cons slot rest ih => exact ih (numbered.note slot)

/-- The new slots of a listing are stored behind all others, in their order, each with the next
place. -/
theorem entries_foldl_note {listing : List Nat} (nodup : listing.Nodup) :
    (listing.foldl note places).entries =
      places.entries ++
        (listing.filter fun slot => decide (slot ∉ places.slots)).zipIdx (places.size + 1) := by
  induction listing generalizing places with
  | nil => exact (List.append_nil places.entries).symm
  | cons slot rest ih =>
    obtain ⟨once, others⟩ := List.nodup_cons.mp nodup
    rw [List.foldl_cons, ih others]
    by_cases seen : slot ∈ places.slots
    · rw [note_of_mem seen, List.filter_cons_of_neg (by simpa using seen)]
    · -- The rest does not hold the slot again, so it meets the same slots as before.
      have same : (rest.filter fun other => decide (other ∉ places.slots ++ [slot])) =
          rest.filter fun other => decide (other ∉ places.slots) := by
        apply List.filter_congr
        intro other member
        have distinct : other ≠ slot := fun same => once (same ▸ member)
        simp only [List.mem_append, List.mem_singleton, distinct, or_false]
      rw [entries_note seen, slots_note seen, size_note seen, same,
        List.filter_cons_of_pos (by simpa using seen), List.zipIdx_cons, List.append_assoc,
        List.singleton_append]

/-- After a listing the slots are those seen before it, and behind them its new ones. -/
theorem slots_foldl_note {listing : List Nat} (nodup : listing.Nodup) :
    (listing.foldl note places).slots =
      places.slots ++ listing.filter fun slot => decide (slot ∉ places.slots) := by
  rw [slots, entries_foldl_note nodup, List.map_append, List.zipIdx_map_fst, ← slots]

/-- A slot keeps its place. -/
theorem get?_foldl_note_of_some {listing : List Nat} (nodup : listing.Nodup)
    (placed : places.get? slot = some place) :
    (listing.foldl note places).get? slot = some place := by
  rw [get?, entries_foldl_note nodup, List.lookup_append, ← get?, placed, Option.some_or]

/-- In ascending order, as many slots stand before a slot as there are lesser ones. -/
theorem idxOf_eq_card {listing : List Nat} (ascending : listing.Pairwise (· < ·))
    (member : slot ∈ listing) :
    listing.idxOf slot = (listing.toFinset.filter (· < slot)).card := by
  induction listing with
  | nil => cases member
  | cons first rest ih =>
    obtain ⟨above, tail⟩ := List.pairwise_cons.mp ascending
    rw [List.toFinset_cons, Finset.filter_insert]
    rcases List.mem_cons.mp member with rfl | later
    · have none : rest.toFinset.filter (· < slot) = ∅ := by
        rw [Finset.filter_eq_empty_iff]
        intro other listed
        exact Nat.not_lt_of_gt (above other (List.mem_toFinset.mp listed))
      rw [List.idxOf_cons_self, if_neg (Nat.lt_irrefl slot), none, Finset.card_empty]
    · have less := above slot later
      have outside : first ∉ rest.toFinset.filter (· < slot) := by
        intro listed
        have again := List.mem_toFinset.mp (Finset.mem_filter.mp listed).1
        exact Nat.lt_irrefl first (above first again)
      rw [List.idxOf_cons_ne _ (Nat.ne_of_lt less), ih tail later, if_pos less,
        Finset.card_insert_of_notMem outside]

/-- A new slot of an ascending listing gets the next place but for the lesser ones that are new
too. -/
theorem get?_foldl_note_of_new {listing : List Nat} (ascending : listing.Pairwise (· < ·))
    (new : slot ∈ listing.filter fun slot => decide (slot ∉ places.slots)) :
    (listing.foldl note places).get? slot =
      some (places.size + 1 +
        (((listing.filter fun slot => decide (slot ∉ places.slots)).toFinset).filter
          (· < slot)).card) := by
  have nodup : listing.Nodup := ascending.imp Nat.ne_of_lt
  have unplaced : places.get? slot = none := by
    rw [← Option.not_isSome_iff_eq_none, isSome_get?_iff]
    exact of_decide_eq_true (List.mem_filter.mp new).2
  rw [get?, entries_foldl_note nodup, List.lookup_append, ← get?, unplaced, Option.none_or,
    lookup_zipIdx, if_pos new, idxOf_eq_card (ascending.filter _) new]

end ReplicaWatch.PlaceMap
