import ReplicaWatch.Json

/-! # Records in JSON

A record is written as an object with named fields, or as an array of its fields in
order. `Json.entries?` brings both to one form, a list of named values. Fields that
the record does not know are passed over, a known one may stand only once, and an
array may leave out fields at the end only where the record allows it.
-/

namespace ReplicaWatch.Json

/-- The fields of a record: their names in order, and how many of them an array has to
give at least. -/
structure Layout where
  names : List String
  required : Nat
  /-- Whether an array may be longer than the record; the surplus is passed over. -/
  surplus : Bool

/-- A layout in which an array gives all of the fields. -/
def Layout.exact (names : List String) : Layout := ⟨names, names.length, false⟩

/-- A layout in which an array may stop behind its first `required` fields. -/
def Layout.open (names : List String) (required : Nat) : Layout := ⟨names, required, false⟩

/-- The fields with a known name, if no known name stands twice and every name is a
string. -/
def knownFields? (names : List String) :
    List (Option String × Json) → Option (List (String × Json))
  | [] => some []
  | (none, _) :: _ => none
  | (some name, value) :: rest =>
    match knownFields? names rest with
    | none => none
    | some entries =>
      if names.contains name then
        if (entries.map Prod.fst).contains name then none else some ((name, value) :: entries)
      else some entries

/-- The entries of a value read as a record. -/
def entries? (layout : Layout) : Json → Option (List (String × Json))
  | .object fields => knownFields? layout.names fields
  | .array items =>
    if layout.required ≤ items.length ∧ (layout.surplus ∨ items.length ≤ layout.names.length) then
      some (layout.names.zip items)
    else none
  | _ => none

/-- The value of an entry that has to be there. -/
def required? {α : Type} (entries : List (String × Json)) (name : String)
    (read : Json → Option α) : Option α :=
  (entries.lookup name).bind read

/-- The value of an entry, with a value in its place where it is left out. -/
def default? {α : Type} (entries : List (String × Json)) (name : String)
    (missing : α) (read : Json → Option α) : Option α :=
  match entries.lookup name with
  | none => some missing
  | some value => read value

/-- The name of a variant without contents: a text, or an object whose only field has
that name and holds `null`. -/
def variant? : Json → Option String
  | .text name => name
  | .object [(name, .null)] => name
  | _ => none

end ReplicaWatch.Json
