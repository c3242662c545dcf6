import AlloyAssist.Json.Basic
import AlloyAssist.Url.Reader

/-!
# Shapes of JSON values

Parameters are judged before anything is made of them, also in parts that nothing is
made of. A `Shape` says what a value may look like, and `Shape.fits` decides it.

A record is written as an object, or as an array that holds its fields in order. In an
object members that the shape does not name are passed over, and a field may be left out
unless it is required. An array must hold all fields but those at its end that have a
value of their own.
-/

namespace AlloyAssist.Protocol

/-- When a field of a record may be left out. -/
inductive Presence where
  | required
  /-- An object may leave the field out. -/
  | optional
  /-- An object may leave the field out, and so may an array. -/
  | defaulted
  deriving DecidableEq, Repr

/-- What a value may look like. -/
inductive Shape where
  | any
  | flag
  | text
  | url
  /-- A whole number between two bounds, both included. -/
  | whole (low high : Int)
  /-- A number of any kind. -/
  | number
  /-- One of some words. -/
  | keyword (words : List String)
  /-- The value may be `null`. -/
  | nullable (shape : Shape)
  | list (element : Shape)
  /-- An array of two values. -/
  | pair (first second : Shape)
  /-- An object whose names are URLs, or any names. -/
  | map (byUrl : Bool) (value : Shape)
  /-- An object or an array with these fields. -/
  | record (fields : List (String × Presence × Shape))
  /-- An object with these fields, and a shape for all other members. -/
  | object (fields : List (String × Presence × Shape)) (others : Shape)
  | oneOf (shapes : List Shape)
  /-- A record with one field more, which says what the others are, by a word or by the
  number of the case. An array has it in front. -/
  | tagged (name : String) (cases : List (String × Shape))
  deriving Repr

namespace Shape

/-- A field of a record. -/
abbrev Field := String × Presence × Shape

/-- A field that must be there. -/
def required (name : String) (shape : Shape) : Field :=
  (name, .required, shape)

/-- A field that may be `null`, and that an object may leave out. -/
def optional (name : String) (shape : Shape) : Field :=
  (name, .optional, .nullable shape)

/-- A field that may be left out anywhere. -/
def defaulted (name : String) (shape : Shape) : Field :=
  (name, .defaulted, shape)

/-- A whole number of 32 bits without sign. -/
def unsigned32 : Shape := .whole 0 (Int.pow 2 32 - 1)

/-- A whole number of 32 bits with sign. -/
def signed32 : Shape := .whole (-Int.pow 2 31) (Int.pow 2 31 - 1)

/-- The members of an object that count: of members with one name, the last. -/
def settle : List (String × Json) → List (String × Json)
  | [] => []
  | (name, value) :: members =>
      if members.any (·.1 == name) then settle members else (name, value) :: settle members

/-- The word that a value stands for. It may also be the one name in an object, bound to
`null`. -/
def word? : Json → Option String
  | .string word => some word
  | .object members =>
      match settle members with
      | [(word, .null)] => some word
      | _ => none
  | _ => none

/-- A text is a URL that can be read. -/
def isUrl (text : String) : Bool :=
  (Url.parse? text).isSome

/-- A value is a number. -/
def isNumber : Json → Bool
  | .int _ => true
  | .decimal _ => true
  | _ => false

/-- Whether one of the fields has a name. -/
def hasField (fields : List Field) (name : String) : Bool :=
  fields.any (·.1 == name)

mutual

/-- Whether a value has a shape. -/
def fits : Shape → Json → Bool
  | any, _ => true
  | flag, json => json.bool?.isSome
  | text, json => json.string?.isSome
  | url, json => json.string?.any isUrl
  | whole low high, json => (json.intBetween? low high).isSome
  | number, json => isNumber json
  | keyword words, json => (word? json).any words.contains
  | nullable shape, json =>
      match json with
      | .null => true
      | json => shape.fits json
  | list element, json => json.array?.any fun values => values.all fun value => element.fits value
  | pair first second, json =>
      match json with
      | .array [left, right] => first.fits left && second.fits right
      | _ => false
  | map byUrl value, json =>
      match json with
      | .object members =>
          (settle members).all fun (name, json) => (!byUrl || isUrl name) && value.fits json
      | _ => false
  | record fields, json =>
      match json with
      | .object members => fieldsFit fields members
      | .array values => fieldsFitInOrder fields values
      | _ => false
  | object fields others, json =>
      match json with
      | .object members =>
          fieldsFit fields members &&
            (settle members).all fun (name, json) => hasField fields name || others.fits json
      | _ => false
  | oneOf shapes, json => anyFits shapes json
  | tagged name cases, json =>
      match json with
      | .object members =>
          match Json.lookup? name members with
          | some tag => caseFits 0 cases tag json
          | none => false
      | .array (tag :: values) => caseFits 0 cases tag (.array values)
      | _ => false

/-- Whether the members of an object have the shapes of the fields. -/
def fieldsFit : List (String × Presence × Shape) → List (String × Json) → Bool
  | [], _ => true
  | (name, presence, shape) :: fields, members =>
      (match Json.lookup? name members with
        | some json => shape.fits json
        | none => presence != .required) &&
        fieldsFit fields members

/-- Whether the values of an array have the shapes of the fields. -/
def fieldsFitInOrder : List (String × Presence × Shape) → List Json → Bool
  | [], values => values.isEmpty
  | (_, presence, shape) :: fields, values =>
      match values with
      | json :: values => shape.fits json && fieldsFitInOrder fields values
      | [] => presence == .defaulted && fieldsFitInOrder fields []

/-- Whether a value has one of some shapes. -/
def anyFits : List Shape → Json → Bool
  | [], _ => false
  | shape :: shapes, json => shape.fits json || anyFits shapes json

/-- Whether a value has the shape that goes with its tag. The cases are counted from a
number on. -/
def caseFits (count : Nat) : List (String × Shape) → Json → Json → Bool
  | [], _, _ => false
  | (word, shape) :: cases, tag, json =>
      if tag.string? == some word || tag.int? == some (count : Int) then shape.fits json
      else caseFits (count + 1) cases tag json

end

end Shape

end AlloyAssist.Protocol
