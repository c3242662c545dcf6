import AlloyAssist.Json.Basic

/-!
# Messages

Editor and session exchange JSON-RPC messages. A call with an identifier wants a
reply that carries the same identifier; a call without one wants none. A message that
is itself a reply is recognized and needs no answer.
-/

namespace AlloyAssist.Protocol

/-- What a call and its reply are matched by. -/
inductive CallId where
  | null
  | number (value : Int)
  | text (value : String)
  deriving DecidableEq, Repr

namespace CallId

/-- Read an identifier. Numbers are whole and fit in 64 bits. -/
def ofJson? : Json → Option CallId
  | .null => some null
  | .string value => some (text value)
  | json => (json.intBetween? (-Int.pow 2 63) (Int.pow 2 63 - 1)).map number

/-- An identifier as JSON. -/
def toJson : CallId → Json
  | null => .null
  | number value => .int value
  | text value => .string value

end CallId

/-- A request, or a notification if it has no identifier. -/
structure Call where
  id : Option CallId
  method : String
  params : Option Json

/-- What an editor sends. -/
inductive Incoming where
  | call (call : Call)
  | reply

namespace Incoming

/-- The only version of JSON-RPC that is spoken. -/
def version : String := "2.0"

/-- The members that make up a call. -/
def callMembers : List String := ["jsonrpc", "method", "params", "id"]

/-- The members that make up the report of an error. -/
def errorMembers : List String := ["code", "message", "data"]

/-- How often a name occurs among the members of an object. -/
def count (name : String) (members : List (String × Json)) : Nat :=
  (members.map Prod.fst).count name

/-- The value of a member that occurs exactly once. -/
def single? (name : String) (members : List (String × Json)) : Option Json :=
  if count name members = 1 then Json.lookup? name members else none

/-- Whether a value names the version of JSON-RPC that is spoken. -/
def isVersion (json : Json) : Bool :=
  json.string? = some version

/-- Whether a value reports an error in reply to a call. The report says nothing
else, and nothing twice. -/
def isErrorReport (json : Json) : Bool :=
  (match json with
    | .object members =>
        members.all fun (name, _) => errorMembers.contains name && count name members = 1
    | _ => true) &&
    ((json.record? errorMembers).bind fun record => do
      let _ ← record.required? "code" (Json.intBetween? (-Int.pow 2 63) (Int.pow 2 63 - 1))
      record.required? "message" Json.string?).isSome

/-- Whether the members of an object make a reply: an identifier, and a result or the
report of an error. Members that a reply has no use for may be repeated. -/
def isReply (members : List (String × Json)) : Bool :=
  (single? "jsonrpc" members).any isVersion &&
    ((single? "id" members).bind CallId.ofJson?).isSome &&
    ((single? "result" members).isSome || (single? "error" members).any isErrorReport)

/-- Read a call from its parts. A missing method is the empty one. -/
def call? (part : String → Option Json) : Option Incoming := do
  guard ((part "jsonrpc").any isVersion)
  let method ← (part "method").elim (some "") Json.string?
  let id ← (part "id").elim (some none) fun id => (CallId.ofJson? id).map some
  return .call { id, method, params := part "params" }

/-- Read a message. A call is an object none of whose own members is repeated, or an
array of its parts, where parts may be missing at the end. -/
def ofJson? (json : Json) : Option Incoming :=
  match json with
  | .object members =>
      if isReply members then some .reply
      else if callMembers.any fun name => 1 < count name members then none
      else call? fun name => Json.lookup? name members
  | .array values =>
      if callMembers.length < values.length then none
      else call? fun name => Json.lookup? name (callMembers.zip values)
  | _ => none

end Incoming

/-- Why a call fails. -/
inductive Fault where
  | parseError
  | invalidRequest
  | methodNotFound
  | invalidParams
  | notInitialized
  deriving DecidableEq, Repr

namespace Fault

/-- The code of a fault. -/
def code : Fault → Int
  | parseError => -32700
  | invalidRequest => -32600
  | methodNotFound => -32601
  | invalidParams => -32602
  | notInitialized => -32002

/-- The wording of a fault. Parameters that do not fit are not explained. -/
def message? : Fault → Option String
  | parseError => some "Parse error"
  | invalidRequest => some "Invalid request"
  | methodNotFound => some "Method not found"
  | invalidParams => none
  | notInitialized => some "Server not initialized"

/-- A fault as JSON. -/
def toJson (fault : Fault) : Json :=
  .object
    (("code", .int fault.code) ::
      (fault.message?.map fun message => ("message", Json.string message)).toList)

end Fault

end AlloyAssist.Protocol
