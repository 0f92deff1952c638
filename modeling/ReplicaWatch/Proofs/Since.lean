import Mathlib.Data.List.Basic
import Mathlib.Data.List.Induction

/-! # What has lasted since some entry

A list of entries, the oldest first, tells that something lasts when some entry starts it and all
later ones keep it up (`Since`). Whether the next entry leaves it so can be read off that entry
(`since_concat`).
-/

namespace ReplicaWatch

variable {α : Type} {keeps starts begins : α → Prop} {entries : List α} {last : α}

/-- Some entry starts it, and all later ones keep it up. -/
def Since (keeps starts : α → Prop) (entries : List α) : Prop :=
  ∃ former entry latter, entries = former ++ entry :: latter ∧ starts entry ∧
    ∀ later ∈ latter, keeps later

/-- Nothing holds since an event before anything happened. -/
theorem not_since_nil : ¬Since keeps starts [] := by
  rintro ⟨former, entry, latter, split, -⟩
  exact absurd split.symm (by simp)

/-- What holds now has just started, or is kept up and held before. -/
theorem since_concat :
    Since keeps starts (entries ++ [last]) ↔
      starts last ∨ keeps last ∧ Since keeps starts entries := by
  constructor
  · rintro ⟨former, entry, latter, split, started, kept⟩
    rcases List.eq_nil_or_concat' latter with rfl | ⟨latter, final, rfl⟩
    · obtain ⟨-, same⟩ := List.append_inj' split rfl
      cases same
      exact .inl started
    · rw [← List.cons_append, ← List.append_assoc] at split
      obtain ⟨rfl, same⟩ := List.append_inj' split rfl
      cases same
      refine .inr ⟨kept last (by simp), former, entry, latter, rfl, started, ?_⟩
      intro later member
      exact kept later (List.mem_append_left _ member)
  · rintro (started | ⟨kept, former, entry, latter, rfl, started, before⟩)
    · exact ⟨entries, last, [], rfl, started, nofun⟩
    · refine ⟨former, entry, latter ++ [last], by simp, started, ?_⟩
      intro later member
      rcases List.mem_append.mp member with early | final
      · exact before later early
      · rw [List.mem_singleton.mp final]
        exact kept

/-- What started it may be described more weakly. -/
theorem Since.imp (since : Since keeps starts entries)
    (weaker : ∀ entry ∈ entries, starts entry → begins entry) : Since keeps begins entries := by
  obtain ⟨former, entry, latter, rfl, started, kept⟩ := since
  exact ⟨former, entry, latter, rfl, weaker entry (by simp) started, kept⟩

/-- What lasts was started behind an entry that neither starts it nor keeps it up. -/
theorem Since.of_not_keeps {former latter : List α} {entry : α}
    (since : Since keeps starts (former ++ entry :: latter)) (ends : ¬keeps entry)
    (other : ¬starts entry) : Since keeps starts latter := by
  induction latter using List.reverseRecOn with
  | nil =>
    rcases since_concat.mp since with started | ⟨kept, -⟩
    · exact absurd started other
    · exact absurd kept ends
  | append_singleton latter last ih =>
    rw [← List.cons_append, ← List.append_assoc, since_concat] at since
    exact since_concat.mpr (since.imp_right (And.imp_right ih))

end ReplicaWatch
