/-!
# JSON values

The messages that an editor exchanges with the session are JSON. Whole numbers and
other numbers are told apart by how they are written, because positions and
identifiers must be whole: `1.0` and `1e2` are not. The members of an object keep
the order in which they are written.
-/

namespace AlloyAssist

/-- A JSON value. -/
inductive Json where
  | null
  | bool (value : Bool)
  /-- A number written without fraction and exponent. -/
  | int (value : Int)
  /-- Any other number, as written. -/
  | decimal (literal : String)
  | string (value : String)
  | array (values : List Json)
  | object (members : List (String × Json))
  deriving BEq, Repr, Inhabited

namespace Json

/-- The value bound to a name; where a name is repeated, the last one counts. -/
def lookup? (name : String) : List (String × Json) → Option Json
  | [] => none
  | (other, value) :: members =>
      (lookup? name members).or (if other = name then some value else none)

/-- The value of a member of an object. -/
def member? (json : Json) (name : String) : Option Json :=
  match json with
  | object members => lookup? name members
  | _ => none

/-- The text of a string. -/
def string? : Json → Option String
  | string value => some value
  | _ => none

/-- The value of a truth value. -/
def bool? : Json → Option Bool
  | bool value => some value
  | _ => none

/-- The elements of an array. -/
def array? : Json → Option (List Json)
  | array values => some values
  | _ => none

/-- A whole number. -/
def int? : Json → Option Int
  | int value => some value
  | _ => none

/-- A whole number between two bounds, both included. -/
def intBetween? (low high : Int) (json : Json) : Option Int :=
  match json with
  | int value => if low ≤ value ∧ value ≤ high then some value else none
  | _ => none

/-- A whole number from zero up to a bound. -/
def natUpTo? (high : Nat) (json : Json) : Option Nat :=
  (json.intBetween? 0 high).map Int.toNat

/-- Decode a value that may be left out by writing `null`. -/
def nullable? {α : Type} (decode : Json → Option α) : Json → Option (Option α)
  | null => some none
  | json => (decode json).map some

/-- Decode every element of an array. -/
def listOf? {α : Type} (decode : Json → Option α) (json : Json) : Option (List α) :=
  json.array?.bind fun values => values.mapM decode

/-- Named values, taken from an object or from an array. -/
abbrev Record := String → Option Json

/-- Read a record. It is written as an object, or as an array with exactly one
value for each of the field names, in their order. -/
def record? (names : List String) : Json → Option Record
  | object members => some fun name => lookup? name members
  | array values =>
      if values.length = names.length then some fun name => lookup? name (names.zip values)
      else none
  | _ => none

namespace Record

/-- A field that must be there. -/
def required? {α : Type} (record : Record) (name : String) (decode : Json → Option α) :
    Option α :=
  (record name).bind decode

/-- A field that may be missing or `null`. -/
def optional? {α : Type} (record : Record) (name : String) (decode : Json → Option α) :
    Option (Option α) :=
  match record name with
  | none => some none
  | some json => nullable? decode json

end Record

end Json

end AlloyAssist
