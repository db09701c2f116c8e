import GuideSite.Config.Fault
import GuideSite.Files.Fault
import GuideSite.Url.Host
import GuideSite.Yaml.Fault

/-!
# Errors

Everything that can end a request without an answer, and the words for it.
-/

namespace GuideSite

/-- The reason why a request has no answer. -/
inductive Error
  /-- The settings of the site are at fault. -/
  | config (fault : ConfigFault)
  /-- A section flag is at fault, outside of any configuration. -/
  | flag (fault : FlagFault)
  /-- A single value stands where several names are expected; `kind` names its kind. -/
  | notSeveral (kind : String)
  /-- An integer has too many digits to be shown. -/
  | longInteger
  /-- The section flags hold themselves. -/
  | endlessFlags
  /-- The table of contents holds itself. -/
  | endlessToc
  /-- The document is no mapping. -/
  | documentNotMapping
  /-- The output directory is no text; `kind` names what it is. -/
  | outputDirectory (kind : String)
  /-- The output directory is given as bytes. -/
  | outputBytes
  /-- The path of a page without a title names no file. -/
  | unnamedPage (path : String)
  /-- The width or height of the logo is infinite. -/
  | infiniteSize
  /-- The text is no document. -/
  | document (fault : Yaml.Fault)
  /-- There is no configuration file. -/
  | configMissing (path : String)
  /-- A file operation failed. -/
  | file (fault : FileFault)
  /-- The links of a directory and of a published site were asked for at once. -/
  | twoLinkSources
  /-- The host of a URL is refused. -/
  | host (fault : HostFault)
  /-- The remote session broke down. -/
  | session (words : String)
  deriving DecidableEq, Repr

namespace Error

/-- What an error says. -/
def message : Error → String
  | config fault => fault.message
  | flag fault => fault.message
  | notSeveral kind => s!"'{kind}' object is not iterable"
  | longInteger => Yaml.Fault.longInteger.message
  | endlessFlags => "maximum recursion depth exceeded in comparison"
  | endlessToc => "maximum recursion depth exceeded while calling a Python object"
  | documentNotMapping => "Top-level YAML structure must be a mapping."
  | outputDirectory kind => s!"expected str, bytes or os.PathLike object, not {kind}"
  | outputBytes => "argument should be a str object or an os.PathLike object returning str, not <class 'bytes'>"
  | unnamedPage path => s!"PosixPath('{path}') has an empty name"
  | infiniteSize => "cannot convert float infinity to integer"
  | document fault => fault.message
  | configMissing path => s!"Configuration file '{path}' not found."
  | file fault => fault.message
  | twoLinkSources => "Pass either --site-dir or --base-url, not both."
  | host fault => fault.message
  | session words => words

end Error

end GuideSite
