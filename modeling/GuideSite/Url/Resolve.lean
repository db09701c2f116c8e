import GuideSite.Url.Basic

/-!
# Resolving references

A reference is read from the place of a base URL, as a browser follows the links of a page. The segments of its path
replace the last segment of the base, and `.` and `..` are worked out on the result.
-/

namespace GuideSite.Url

/-- The segments of a path between its slashes. -/
def segments (path : List Char) : List (List Char) := path.splitOn '/'

/-- The list without empty segments, save for the first and the last. -/
def withoutInnerEmpty : List (List Char) → List (List Char)
  | [] => []
  | first :: rest => match rest.reverse with
    | [] => [first]
    | last :: inner => first :: (inner.reverse.filter (· ≠ []) ++ [last])

/-- The segments with `.` and `..` worked out; `above` holds those so far, the last one first. -/
def climb (above : List (List Char)) : List (List Char) → List (List Char)
  | [] => above.reverse
  | segment :: rest =>
    if segment = ['.', '.'] then climb above.tail rest
    else if segment = ['.'] then climb above rest
    else climb (segment :: above) rest

/-- The segments of the base that a relative path follows. -/
def baseSegments (path : List Char) : List (List Char) :=
  let parts := segments path
  if parts.getLast? = some [] then parts else parts.dropLast

/-- A path read from the place of a base path. -/
def resolvePath (base path : List Char) : List Char :=
  let parts :=
    if path.head? = some '/' then segments path
    else withoutInnerEmpty (baseSegments base ++ segments path)
  let resolved := climb [] parts
  let resolved := if parts.getLast? = some ['.'] ∨ parts.getLast? = some ['.', '.'] then resolved ++ [[]] else resolved
  let joined := ['/'].intercalate resolved
  if joined = [] then ['/'] else joined

/-- The parts of a reference read from the place of a base; none if the reference stands alone. -/
def resolveParts? (base reference : Url) : Option Url :=
  if reference.scheme ≠ base.scheme ∨ !schemeIn relativeSchemes reference.scheme then none
  else if schemeIn authoritySchemes reference.scheme ∧ reference.authority ≠ [] then some reference
  else
    let authority := if schemeIn authoritySchemes reference.scheme then base.authority else reference.authority
    if reference.path = [] ∧ reference.params = [] then
      some { reference with
        authority, path := base.path, params := base.params
        query := if reference.query = [] then base.query else reference.query }
    else some { reference with authority, path := resolvePath base.path reference.path }

/-- The reference read from the place of a base URL. -/
def resolve (base reference : String) : Except HostFault String :=
  if base = "" then .ok reference
  else if reference = "" then .ok base
  else do
    let baseUrl ← parse [] base.toList
    let url ← parse baseUrl.scheme reference.toList
    return match resolveParts? baseUrl url with
      | some resolved => String.ofList resolved.chars
      | none => reference

end GuideSite.Url
