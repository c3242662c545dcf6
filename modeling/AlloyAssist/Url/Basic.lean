/-!
# URLs

Documents are identified by URLs. A `Url` holds the parts of a normalized one, so
two spellings of the same location give the same value.
-/

namespace AlloyAssist

/-- A normalized URL in parts. -/
structure Url where
  scheme : String
  /-- User, host and service number as written behind the double slash. -/
  authority : Option String
  path : String
  query : Option String
  fragment : Option String
  deriving DecidableEq, Hashable, Repr

namespace Url

/-- A path that starts like an authority is set off by a dot segment where there is
no authority in front of it. -/
def pathGuard (url : Url) : String :=
  if url.authority.isNone && ['/', '/'].isPrefixOf url.path.toList then "/." else ""

/-- The URL as text. -/
def href (url : Url) : String :=
  url.scheme ++ ":" ++ (url.authority.elim "" ("//" ++ ·)) ++ url.pathGuard ++ url.path ++
    (url.query.elim "" ("?" ++ ·)) ++ (url.fragment.elim "" ("#" ++ ·))

/-- The path ends with a text. -/
def pathEndsWith (url : Url) (ending : String) : Bool :=
  ending.toList.isSuffixOf url.path.toList

end Url

end AlloyAssist
