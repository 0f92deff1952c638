import Mathlib.Data.List.Nodup
import ReplicaWatch.Json.Entries

/-! # What stands in a record

A field of a record is found by its name, or by its place where the record is written as an array
(`Json.member?`). An object in which no name stands twice is read as its fields with a known name
(`Json.entries?_record`), so that a record that was written is read as all of its fields
(`Json.entries?_own`).
-/

namespace ReplicaWatch.Json

/-- What stands under a name in a record with fields of some names. -/
def member? (names : List String) (name : String) : Json → Option Json
  | .object fields => fields.lookup (some name)
  | .array items => (names.zip items).lookup name
  | _ => none

variable {name : String} {names : List String} {entries : List (String × Json)}

/-- Under a name that is known stands what stands under it in the object. -/
theorem lookup_knownFields? {fields : List (Option String × Json)}
    (known : knownFields? names fields = some entries) (member : name ∈ names) :
    entries.lookup name = fields.lookup (some name) := by
  fun_induction knownFields? names fields generalizing entries with
  | case1 =>
    cases known
    rfl
  | case2 => cases known
  | case3 => cases known
  | case4 => cases known
  | case5 other value rest entries found unknown fresh ih =>
    cases known
    by_cases same : name = other
    · simp [same]
    · have different : (name == other) = false := beq_eq_false_iff_ne.mpr same
      simp [List.lookup_cons, different, ih found]
  | case6 other value rest entries found unknown ih =>
    cases known
    have different : (name == other) = false := by
      rw [beq_eq_false_iff_ne]
      rintro rfl
      exact unknown (List.contains_iff_mem.mpr member)
    simp [List.lookup_cons, different, ih found]

/-- No name is taken twice. -/
theorem nodup_knownFields? {fields : List (Option String × Json)}
    (known : knownFields? names fields = some entries) : (entries.map Prod.fst).Nodup := by
  fun_induction knownFields? names fields generalizing entries with
  | case1 =>
    cases known
    exact List.nodup_nil
  | case2 => cases known
  | case3 => cases known
  | case4 => cases known
  | case5 other value rest entries found _ fresh ih =>
    cases known
    exact List.nodup_cons.mpr ⟨fun member => fresh (List.contains_iff_mem.mpr member), ih found⟩
  | case6 other value rest entries found _ ih =>
    cases known
    exact ih found

/-- A list gives its items to the names in order, as far as it goes. -/
theorem map_fst_zip_sublist (names : List String) (items : List Json) :
    ((names.zip items).map Prod.fst).Sublist names := by
  induction names generalizing items with
  | nil => exact List.nil_sublist _
  | cons name names ih =>
    cases items with
    | nil => exact List.nil_sublist _
    | cons item items => exact (ih items).cons_cons name

/-- The entries of a record are what stands under its names, each once. -/
theorem entries?_eq {layout : Layout} {value : Json} (distinct : layout.names.Nodup)
    (read : entries? layout value = some entries) :
    (entries.map Prod.fst).Nodup ∧
      ∀ name ∈ layout.names, entries.lookup name = value.member? layout.names name := by
  cases value with
  | object fields => exact ⟨nodup_knownFields? read, fun name => lookup_knownFields? read⟩
  | array items =>
    simp only [entries?, Option.ite_none_right_eq_some, Option.some.injEq] at read
    obtain ⟨-, rfl⟩ := read
    exact ⟨distinct.sublist (map_fst_zip_sublist _ items), fun _ _ => rfl⟩
  | _ => cases read

/-! ## Objects -/

section Objects

variable {fields : List (String × Json)} (once : (fields.map Prod.fst).Nodup)
include once

/-- In an object in which no name stands twice, the known fields are those with a known name. -/
theorem entries?_record (layout : Layout) :
    entries? layout (record fields) =
      some (fields.filter fun field => layout.names.contains field.1) := by
  change knownFields? layout.names (fields.map fun field => (some field.1, field.2)) = _
  induction fields with
  | nil => rfl
  | cons field fields ih =>
    obtain ⟨fresh, once⟩ := List.nodup_cons.mp once
    have absent : ((fields.filter fun field => layout.names.contains field.1).map
        Prod.fst).contains field.1 = false := by
      rw [Bool.eq_false_iff]
      intro again
      obtain ⟨other, kept, same⟩ := List.mem_map.mp (List.contains_iff_mem.mp again)
      exact fresh (same ▸ List.mem_map_of_mem (List.mem_of_mem_filter kept))
    rw [List.map_cons, knownFields?, ih once, List.filter_cons]
    dsimp only
    rw [absent]
    split <;> rfl

/-- A record of known names is read as it is. -/
theorem entries?_own {layout : Layout} (own : ∀ field ∈ fields, field.1 ∈ layout.names) :
    entries? layout (record fields) = some fields := by
  rw [entries?_record once, List.filter_eq_self.mpr]
  exact fun field member => List.contains_iff_mem.mpr (own field member)

end Objects

end ReplicaWatch.Json
