import GuideSite.Config.Document
import GuideSite.Files.Access
import GuideSite.Yaml.Document

/-!
# Loading sites

A site is configured by a text in YAML, which may stand in a file.
-/

namespace GuideSite.Config

/-- The site that a text configures. -/
def siteOfText (s : String) : Except Error Site := do
  site (← (Yaml.read s).mapError .document)

/-- The site that the file at a path configures. -/
def siteAt (t : FileTree) (cwd : Location) (p : Path) : Except Error Site :=
  match t.locate cwd p with
  | .error .nameTooLong => .error (.file ⟨.nameTooLong, p.text⟩)
  | .error _ => .error (.configMissing p.text)
  | .ok place =>
    if (t.find? place).isNone then .error (.configMissing p.text)
    else do siteOfText (← (t.readText cwd p).mapError .file)

end GuideSite.Config
