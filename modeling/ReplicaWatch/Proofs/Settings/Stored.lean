import ReplicaWatch.Proofs.Json.Records
import ReplicaWatch.Proofs.Success
import ReplicaWatch.Settings.Loading

/-! # What stands in a file of settings

A record that is read onto its usual values takes from each field what stands under its name, and
keeps the usual value where nothing stands there (`Json.overlay_field`).
-/

namespace ReplicaWatch

namespace Json

variable {name : String} {names : List String} {entries : List (String × Json)}

section Fields

variable {α β : Type} {get : α → β} {Took : Json → β → Prop}
  {field : α → String → Json → Except DocumentFault α} {start record : α}

theorem foldlM_other
    (other : ∀ before name' value after, name' ≠ name → field before name' value = .ok after →
      get after = get before)
    (absent : name ∉ entries.map Prod.fst)
    (folded : entries.foldlM (fun before entry => field before entry.1 entry.2) start =
      .ok record) : get record = get start := by
  induction entries generalizing start with
  | nil =>
    cases folded
    rfl
  | cons entry entries ih =>
    rw [List.map_cons, List.mem_cons, not_or] at absent
    rw [List.foldlM_cons] at folded
    obtain ⟨after, set, folded⟩ := bind_eq_ok.mp folded
    rw [ih absent.2 folded, other start entry.1 entry.2 after (Ne.symm absent.1) set]

theorem foldlM_field
    (own : ∀ before value after, field before name value = .ok after → Took value (get after))
    (other : ∀ before name' value after, name' ≠ name → field before name' value = .ok after →
      get after = get before)
    (distinct : (entries.map Prod.fst).Nodup)
    (folded : entries.foldlM (fun before entry => field before entry.1 entry.2) start =
      .ok record) {value : Json} (found : entries.lookup name = some value) :
    Took value (get record) := by
  induction entries generalizing start with
  | nil => cases found
  | cons entry entries ih =>
    obtain ⟨fresh, distinct⟩ := List.nodup_cons.mp distinct
    rw [List.foldlM_cons] at folded
    obtain ⟨after, set, folded⟩ := bind_eq_ok.mp folded
    by_cases same : name = entry.1
    · subst same
      rw [List.lookup_cons, beq_self_eq_true] at found
      cases found
      rw [foldlM_other other fresh folded]
      exact own start entry.2 after set
    · have different : (name == entry.1) = false := beq_eq_false_iff_ne.mpr same
      rw [List.lookup_cons, different] at found
      exact ih distinct folded found

/-- **One field.** A record that is read onto the usual one holds in a field what stands under its
name, or what the usual one holds. -/
theorem overlay_field (name : String) (get : α → β) (Took : Json → β → Prop) {value : Json}
    {surplus : Bool}
    (own : ∀ before value after, field before name value = .ok after → Took value (get after))
    (other : ∀ before name' value after, name' ≠ name → field before name' value = .ok after →
      get after = get before)
    (distinct : names.Nodup) (member : name ∈ names)
    (read : value.overlay names surplus field start = .ok record) :
    (value.member? names name = none → get record = get start) ∧
      ∀ content, value.member? names name = some content → Took content (get record) := by
  unfold overlay at read
  split at read
  · cases read
  · next entries found =>
    obtain ⟨once, under⟩ := entries?_eq distinct found
    rw [← under name member]
    refine ⟨fun absent => foldlM_other other ?_ read,
      fun content => foldlM_field own other once read⟩
    intro present
    obtain ⟨entry, listed, rfl⟩ := List.mem_map.mp present
    have nothing := List.lookup_eq_none_iff.mp absent entry listed
    simp at nothing

end Fields

end Json

end ReplicaWatch
