import GuideSite.Path.Basic
import GuideSite.Text.Blank

/-!
# The depth of a page

A page reaches the site root by as many steps upwards as there are directories above it. The directories are counted
on the path's text alone: `lexical` resolves `..` against the name before it, as far as there is one.
-/

namespace GuideSite.Path

/-- The names of a path with `..` resolved; `above` holds the names resolved so far, the last one first. -/
def lexicalFrom (above : List String) : List String → List String
  | [] => above.reverse
  | segment :: rest =>
    if segment = "" ∨ segment = "." then lexicalFrom above rest
    else if segment = ".." then
      match above with
      | [] => lexicalFrom [".."] rest
      | top :: below => if top = ".." then lexicalFrom (".." :: above) rest else lexicalFrom below rest
    else lexicalFrom (segment :: above) rest

/-- The names of a relative path with `..` resolved. -/
def lexical (s : String) : List String :=
  lexicalFrom [] (segments s)

/-- The text of one step upwards, for each directory above the page. -/
def toRoot (page : String) : String :=
  String.join (List.replicate ((lexical (Text.dropSlashes (Text.strip page))).length - 1) "../")

end GuideSite.Path
