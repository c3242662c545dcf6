import AlloyAssist.Json.Basic

/-!
# Writing JSON

Values are written without blanks between their parts. In strings only quotes,
backslashes and control characters are escaped; everything else stands for itself.
-/

namespace AlloyAssist.Json

/-- A control character as a four digit escape. -/
def unicodeEscape (c : Char) : String :=
  "\\u00" ++ String.ofList [Nat.digitChar (c.toNat / 16), Nat.digitChar (c.toNat % 16)]

/-- A character as it is written inside a string. -/
def escapeChar (c : Char) : String :=
  if c = '"' then "\\\""
  else if c = '\\' then "\\\\"
  else if c = '\n' then "\\n"
  else if c = '\r' then "\\r"
  else if c = '\t' then "\\t"
  else if c.toNat = 0x08 then "\\b"
  else if c.toNat = 0x0C then "\\f"
  else if c.toNat < 0x20 then unicodeEscape c
  else c.toString

/-- A string with its quotes. -/
def quote (text : String) : String :=
  "\"" ++ String.join (text.toList.map escapeChar) ++ "\""

mutual

/-- The text of a value. -/
def render : Json → String
  | null => "null"
  | bool true => "true"
  | bool false => "false"
  | int value => toString value
  | decimal literal => literal
  | string value => quote value
  | array values => "[" ++ String.intercalate "," (renderValues values) ++ "]"
  | object members => "\x7b" ++ String.intercalate "," (renderMembers members) ++ "\x7d"

/-- The texts of the elements of an array. -/
def renderValues : List Json → List String
  | [] => []
  | value :: values => value.render :: renderValues values

/-- The texts of the members of an object. -/
def renderMembers : List (String × Json) → List String
  | [] => []
  | (name, value) :: members => (quote name ++ ":" ++ value.render) :: renderMembers members

end

end AlloyAssist.Json
