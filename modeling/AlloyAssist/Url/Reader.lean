import AlloyAssist.Text.Pieces
import AlloyAssist.Url.Basic
import AlloyAssist.Url.Host

/-!
# Reading URLs

A URL is read by the rules of the web: blanks around it and line breaks inside it
are dropped, dot segments are resolved, and every part is encoded. Schemes of the web
always have a host and a path; files have a host that is usually empty; a scheme that
nothing is known about may have an opaque path, which is kept as it is.
-/

namespace AlloyAssist.Url

open Number Text

/-! ## Schemes -/

/-- What is known about a scheme. -/
inductive SchemeKind where
  | file
  /-- A scheme of the web, with its usual service number. -/
  | web (service : Nat)
  | other
  deriving DecidableEq, Repr

namespace SchemeKind

/-- The kind of a scheme in lower case. -/
def ofName : String → SchemeKind
  | "file" => file
  | "http" | "ws" => web 80
  | "https" | "wss" => web 443
  | "ftp" => web 21
  | _ => other

/-- Schemes whose parts are also separated by backslashes. -/
def isSpecial : SchemeKind → Bool
  | other => false
  | _ => true

end SchemeKind

/-- Characters a scheme may go on with. -/
def isSchemeChar (c : Char) : Bool :=
  c.isAlphanum || c == '+' || c == '-' || c == '.'

/-- Read the scheme and what follows its colon. -/
def readScheme? (text : List Char) : Option (String × List Char) :=
  match text with
  | [] => none
  | c :: rest =>
      if c.isAlpha then
        match rest.dropWhile isSchemeChar with
        | ':' :: tail =>
            some (String.ofList ((c :: rest.takeWhile isSchemeChar).map Char.toLower), tail)
        | _ => none
      else none

/-! ## Paths -/

/-- What separates the segments of a path. -/
def isSlash (kind : SchemeKind) (c : Char) : Bool :=
  c == '/' || (kind.isSpecial && c == '\\')

/-- A dot, written plainly or escaped. -/
def dotForms : List (List Char) :=
  [['.'], ['%', '2', 'e'], ['%', '2', 'E']]

/-- A segment that names its own directory. -/
def isSingleDot (segment : List Char) : Bool :=
  dotForms.contains segment

/-- A segment that names the directory above. -/
def isDoubleDot (segment : List Char) : Bool :=
  dotForms.any fun first => dotForms.any fun second => segment == first ++ second

/-- A letter and a colon, or a bar in its place, name a drive. -/
def isDrive (segment : List Char) : Bool :=
  match segment with
  | [letter, mark] => letter.isAlpha && (mark == ':' || mark == '|')
  | _ => false

/-- The colon of a drive in its usual form. -/
def normalizeDrive (segment : List Char) : List Char :=
  match segment with
  | [letter, _] => [letter, ':']
  | _ => segment

/-- Leave a directory. A drive is never left. The segments are in reverse order. -/
def popSegment (above : List (List Char)) : List (List Char) :=
  match above with
  | [] => []
  | segment :: below => if isDrive segment then segment :: below else below

/-- Resolve dot segments. `above` holds the segments so far in reverse order; a path
that ends in a dot segment ends in a slash. A drive takes its usual form where the path
of a file starts with it. -/
def resolve (kind : SchemeKind) (above : List (List Char)) :
    List (List Char) → List (List Char)
  | [] => above.reverse
  | segment :: segments =>
      if isDoubleDot segment then
        let below := popSegment above
        resolve kind (if segments.isEmpty then [] :: below else below) segments
      else if isSingleDot segment then
        resolve kind (if segments.isEmpty then [] :: above else above) segments
      else if kind == .file && above.isEmpty && isDrive segment then
        resolve kind (normalizeDrive segment :: above) segments
      else resolve kind (encode inPathSet segment :: above) segments

/-- The normalized segments of the path that follows these segments. -/
def readSegments (kind : SchemeKind) (above : List (List Char)) (text : List Char) :
    List (List Char) :=
  resolve kind above (pieces (isSlash kind) text)

/-- Write a path. The paths of files do not start with empty segments. -/
def writePath (kind : SchemeKind) (segments : List (List Char)) : List Char :=
  let path := ['/'].intercalate segments
  '/' :: if kind == .file then path.dropWhile (· == '/') else path

/-- The normalized path behind its first slash. -/
def readPath (kind : SchemeKind) (text : List Char) : List Char :=
  writePath kind (readSegments kind [] text)

/-! ## Authorities -/

/-- User name and password in front of the host, with their separators. -/
def readUser (text : List Char) : List Char :=
  let name := encode inUserSet (text.takeWhile (· != ':'))
  let password := encode inUserSet ((text.dropWhile (· != ':')).drop 1)
  if name.isEmpty && password.isEmpty then []
  else name ++ (if password.isEmpty then [] else ':' :: password) ++ ['@']

/-- Cut a host from its service number at the first colon outside brackets. -/
def cutService (inBrackets : Bool) : List Char → List Char × Option (List Char)
  | [] => ([], none)
  | c :: rest =>
      if c = ':' ∧ !inBrackets then ([], some rest)
      else
        let (host, service) := cutService (c == '[' || (inBrackets && c != ']')) rest
        (c :: host, service)

/-- Read a service number, which is left out where it is the usual one. -/
def readService? (kind : SchemeKind) : Option (List Char) → Option (List Char)
  | none => some []
  | some digits =>
      if !digits.all Char.isDigit || 65535 < decimalValue digits then none
      else if digits.isEmpty || kind == .web (decimalValue digits) then some []
      else some (':' :: Nat.toDigits 10 (decimalValue digits))

/-- Read an authority, and what stands behind a backslash that ends the service number.
Schemes of the web need a host, and so does a user or a service number. -/
def readAuthority? (kind : SchemeKind) (text : List Char) :
    Option (List Char × List Char) := do
  let (user, tail) := cutAtLast '@' text
  let user := user.elim [] readUser
  let (host, service) := cutService false tail
  guard (!host.isEmpty || (!kind.isSpecial && user.isEmpty && service.isNone))
  let host ← if kind.isSpecial then domainHost? host else opaqueHost? host
  let number ← readService? kind (service.map (List.takeWhile (· != '\\')))
  return (user ++ host ++ number, (service.getD []).dropWhile (· != '\\'))

/-- Read the host of a file; the local host is left out. -/
def readFileHost? (text : List Char) : Option (List Char) :=
  if text.isEmpty then some []
  else (domainHost? text).map fun host => if host = "localhost".toList then [] else host

/-! ## The whole -/

/-- What stands in front of the query and the fragment, and both of these. -/
structure Cut where
  front : List Char
  query : Option (List Char)
  fragment : Option (List Char)

namespace Cut

/-- Cut a text at its first number sign and then at its first question mark. -/
def ofChars (text : List Char) : Cut :=
  let main := text.takeWhile (· != '#')
  { front := main.takeWhile (· != '?')
    query :=
      match main.dropWhile (· != '?') with
      | [] => none
      | _ :: query => some query
    fragment :=
      match text.dropWhile (· != '#') with
      | [] => none
      | _ :: fragment => some fragment }

/-- Put normalized parts together. -/
def toUrl (cut : Cut) (kind : SchemeKind) (scheme : String) (authority : Option (List Char))
    (path : List Char) : Url :=
  { scheme
    authority := authority.map String.ofList
    path := String.ofList path
    query := cut.query.map fun query => String.ofList (encode (inQuerySet kind.isSpecial) query)
    fragment := cut.fragment.map fun fragment => String.ofList (encode inFragmentSet fragment) }

end Cut

/-- Read what follows the two slashes of a file. The slash behind an empty host counts
as an empty segment; a written host in front of a drive is dropped. -/
def readHostedFile? (scheme : String) (cut : Cut) (text : List Char) : Option Url :=
  let host := text.takeWhile fun c => !isSlash .file c
  let tail := text.dropWhile fun c => !isSlash .file c
  if isDrive host then some (cut.toUrl .file scheme (some []) (readPath .file text))
  else
    (readFileHost? host).map fun host =>
      let above := if host.isEmpty && !tail.isEmpty then [[]] else []
      let segments := readSegments .file above (tail.drop 1)
      let host := if (segments.head?.map isDrive).getD false then [] else host
      cut.toUrl .file scheme (some host) (writePath .file segments)

/-- Read what follows the scheme of a file. -/
def readFile? (scheme : String) (cut : Cut) : Option Url :=
  let plain (path : List Char) : Option Url :=
    some (cut.toUrl .file scheme (some []) (readPath .file path))
  match cut.front with
  | [] => plain []
  | first :: rest =>
      if isSlash .file first then
        match rest with
        | [] => plain []
        | second :: tail =>
            if isSlash .file second then readHostedFile? scheme cut tail else plain rest
      else plain cut.front

/-- Read an authority and the path behind it. An authority that is a mere at sign must
be all there is. Only schemes of the web have a path where none is written. -/
def readHierarchy? (kind : SchemeKind) (scheme : String) (cut : Cut) (text : List Char) :
    Option Url := do
  let front := text.takeWhile fun c => !isSlash kind c
  let tail := text.dropWhile fun c => !isSlash kind c
  guard (front ≠ ['@'] ∨ (tail.isEmpty ∧ cut.query.isNone ∧ cut.fragment.isNone))
  let (authority, behind) ← readAuthority? kind front
  let path :=
    if !behind.isEmpty then readPath kind (behind ++ tail)
    else if tail.isEmpty && !kind.isSpecial then []
    else readPath kind (tail.drop 1)
  return cut.toUrl kind scheme (some authority) path

/-- Read what follows a scheme that nothing is known about. -/
def readOther? (scheme : String) (cut : Cut) : Option Url :=
  match cut.front with
  | '/' :: '/' :: rest => readHierarchy? .other scheme cut rest
  | '/' :: rest => some (cut.toUrl .other scheme none (readPath .other rest))
  | path => some (cut.toUrl .other scheme none (encode isControl path))

/-- Drop control characters and spaces at both ends, and tabs and line breaks
anywhere. -/
def clean (text : List Char) : List Char :=
  let isEdge (c : Char) : Bool := c.toNat ≤ 0x20
  ((text.dropWhile isEdge).reverse.dropWhile isEdge).reverse.filter fun c =>
    !(c == '\t' || c == '\n' || c == '\r')

/-- Read a URL. It must have a scheme. -/
def parse? (text : String) : Option Url :=
  (readScheme? (clean text.toList)).bind fun (scheme, rest) =>
    let cut := Cut.ofChars rest
    match SchemeKind.ofName scheme with
    | .file => readFile? scheme cut
    | .web service =>
        readHierarchy? (.web service) scheme cut
          (cut.front.dropWhile (isSlash (.web service)))
    | .other => readOther? scheme cut

end AlloyAssist.Url
