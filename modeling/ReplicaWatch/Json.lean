/-! # JSON values

A JSON value keeps what its text says and what a reader can tell apart: the order
of an object's fields and every repetition of one, and of a number whether it is
written as an integer. A text may hold an escaped half of a surrogate pair, which
no Unicode text spells; such a text is `none`, so that a reader may pass over it
but never take it for a string.
-/

namespace ReplicaWatch

/-- A number as it is written. -/
inductive Json.Numeral where
  /-- Digits with an optional minus sign. -/
  | integer (value : Int)
  /-- Any other literal: with a fraction, with an exponent, or a negative zero. -/
  | inexact (literal : String)
  deriving DecidableEq

/-- A JSON value. -/
inductive Json where
  | null
  | bool (value : Bool)
  | number (numeral : Json.Numeral)
  | text (content : Option String)
  | array (items : List Json)
  | object (fields : List (Option String × Json))

namespace Json

instance : Inhabited Json := ⟨null⟩

/-- A text value. -/
def string (s : String) : Json := .text (some s)

/-- A natural number. -/
def natural (n : Nat) : Json := .number (.integer n)

/-- An object with the given fields, in order. -/
def record (fields : List (String × Json)) : Json :=
  .object (fields.map fun field => (some field.1, field.2))

/-- `null` for nothing, else the value's form. -/
def nullable {α : Type} (form : α → Json) : Option α → Json
  | none => .null
  | some a => form a

/-- The string a text value spells. -/
def string? : Json → Option String
  | .text content => content
  | _ => none

/-- The truth value, of a value that is one. -/
def bool? : Json → Option Bool
  | .bool b => some b
  | _ => none

/-- An integer within the bounds. -/
def integer? (low high : Int) : Json → Option Int
  | .number (.integer n) => if low ≤ n ∧ n ≤ high then some n else none
  | _ => none

/-- A natural number below `limit`. -/
def natural? (limit : Nat) : Json → Option Nat
  | .number (.integer (.ofNat n)) => if n < limit then some n else none
  | _ => none

/-- Reads `null` as nothing and any other value with `read`. -/
def nullable? {α : Type} (read : Json → Option α) : Json → Option (Option α)
  | .null => some none
  | value => (read value).map some

/-- Whether a value is `null`. -/
def isNull : Json → Bool
  | .null => true
  | _ => false

@[simp] theorem string?_string (s : String) : (string s).string? = some s := rfl

theorem natural?_natural {limit n : Nat} (small : n < limit) :
    (natural n).natural? limit = some n := by
  change (if n < limit then some n else none) = some n
  exact if_pos small

end Json

end ReplicaWatch
