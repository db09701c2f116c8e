import GuideSite.Error
import GuideSite.Files.Access
import GuideSite.Links.Catalogue

/-!
# Checking links in a directory

A link is good when there is a file for it below the directory of the built site. What follows a `#` names a place
inside the file and does not count. A link that is too long for the name of a file ends the check.
-/

namespace GuideSite.Links

/-- The link without what follows its first `#`. -/
def withoutFragment (link : String) : String :=
  String.ofList (link.toList.takeWhile (· ≠ '#'))

/-- The file of a link below the directory. -/
def target (dir : Path) (link : String) : Path := dir / .parse (withoutFragment link)

/-- There is a file for the link below the directory. -/
def isBuilt (t : FileTree) (cwd : Location) (dir : Path) (link : String) : Bool :=
  t.isFileAt cwd (target dir link)

/-- The links of a list that have no file below the directory. -/
def missingOf (t : FileTree) (cwd : Location) (dir : Path) (links : List String) : List String :=
  links.filter fun link => !isBuilt t cwd dir link

/-- The links of a site that have no file below the directory, in the order of the catalogue. -/
def missingIn (site : Site) (t : FileTree) (cwd : Location) (dir : Path) : Except Error (List String) := do
  (catalogue site).forM fun link => (t.checkLength cwd (target dir link)).mapError .file
  return missingOf t cwd dir (catalogue site)

end GuideSite.Links
