/-!
# TOML values and how tables grow

A TOML text builds one tree of tables. A table may be written in several places,
but the places must not contradict each other: a header opens a table once, a
dotted key adds only to tables that no header opened, and what is written inline
is complete. `Origin` remembers how a table came about, and each way of writing
into the tree is allowed or refused by it.

Numbers keep their spelling. A number may be well written and still have no value;
that matters only to those who look at it.
-/

namespace AlloyAssist.Toml

/-- How a table came about. -/
inductive Origin where
  /-- Written between braces, complete as it stands. -/
  | inline
  /-- Only passed through on the way to a header's table. -/
  | passed
  /-- Opened by a header of its own. -/
  | opened
  /-- Made by a dotted key. -/
  | dotted
  deriving DecidableEq, Repr

/-- A TOML value. Numbers and dates keep their spelling. -/
inductive Value where
  | string (value : String)
  | boolean (value : Bool)
  | integer (literal : String)
  | float (literal : String)
  /-- A number without a value: a base without digits, or more than a double holds. -/
  | valueless (literal : String)
  | dateTime (literal : String)
  | array (values : List Value)
  | table (origin : Origin) (entries : List (String × Value))
  /-- An array of tables that grows by double bracketed headers. -/
  | tables (elements : List (List (String × Value)))
  deriving Repr, Inhabited

/-- The entries of a table, in the order of their first mention. -/
abbrev Entries := List (String × Value)

/-! ## Numbers without a value -/

mutual

/-- Every number in a value has a value. -/
def Value.isSound : Value → Bool
  | .valueless _ => false
  | .array values => areSound values
  | .table _ entries => areSoundEntries entries
  | .tables elements => areSoundElements elements
  | _ => true

/-- Every number in a list of values has a value. -/
def areSound : List Value → Bool
  | [] => true
  | value :: values => value.isSound && areSound values

/-- Every number in a table has a value. -/
def areSoundEntries : List (String × Value) → Bool
  | [] => true
  | (_, value) :: entries => value.isSound && areSoundEntries entries

/-- Every number in an array of tables has a value. -/
def areSoundElements : List (List (String × Value)) → Bool
  | [] => true
  | entries :: elements => areSoundEntries entries && areSoundElements elements

end

/-! ## Growing tables -/

namespace Entries

/-- The value of a key. -/
def get? (key : String) : Entries → Option Value
  | [] => none
  | (other, value) :: entries => if other = key then some value else get? key entries

/-- Replace the value of a key, or put a new one behind all others. The update
sees the old value and may refuse. -/
def alter? (key : String) (update : Option Value → Option Value) : Entries → Option Entries
  | [] => (update none).map fun value => [(key, value)]
  | (other, value) :: entries =>
      if other = key then (update (some value)).map fun value => (key, value) :: entries
      else (alter? key update entries).map ((other, value) :: ·)

/-- Update the last element of an array of tables. -/
def alterLast? (update : Entries → Option Entries) : List Entries → Option (List Entries)
  | [] => none
  | [element] => (update element).map ([·])
  | element :: elements => (alterLast? update elements).map (element :: ·)

/-- Follow the leading keys of a header and update the table they lead to. Tables
that are missing on the way are made; of an array of tables the last one counts. -/
def descend? (update : Entries → Option Entries) : List String → Entries → Option Entries
  | [], entries => update entries
  | key :: path, entries =>
      entries.alter? key fun
        | none => (descend? update path []).map (.table .passed)
        | some (.table .inline _) => none
        | some (.table origin inner) => (descend? update path inner).map (.table origin)
        | some (.tables elements) => (alterLast? (descend? update path) elements).map .tables
        | some _ => none

/-- Open the table named by the last key of a header. -/
def openTable? (key : String) (entries : Entries) : Option Entries :=
  entries.alter? key fun
    | none => some (.table .opened [])
    | some (.table .passed inner) => some (.table .opened inner)
    | some _ => none

/-- Start another element of the array of tables named by the last key of a
header. -/
def openElement? (key : String) (entries : Entries) : Option Entries :=
  entries.alter? key fun
    | none => some (.tables [[]])
    | some (.tables elements) => some (.tables (elements ++ [[]]))
    | some _ => none

/-- Set a key that must be new. -/
def setNew? (key : String) (value : Value) (entries : Entries) : Option Entries :=
  entries.alter? key fun
    | none => some value
    | some _ => none

/-- Set a dotted key. The tables on the way must not have been opened by a header; of
an array of tables, which headers made, the last one may be crossed but not added to. -/
def set? (value : Value) : (path : List String) → (key : String) → Entries → Option Entries
  | [], key, entries => entries.setNew? key value
  | part :: path, key, entries =>
      entries.alter? part fun
        | none => (set? value path key []).map (.table .dotted)
        | some (.table .dotted inner) => (set? value path key inner).map (.table .dotted)
        | some (.table .passed inner) => (set? value path key inner).map (.table .passed)
        | some (.tables elements) =>
            if path.isEmpty then none
            else (alterLast? (set? value path key) elements).map .tables
        | some _ => none

end Entries

end AlloyAssist.Toml
