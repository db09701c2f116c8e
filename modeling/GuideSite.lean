import GuideSite.Main
import GuideSite.Proofs.Nav.Mirroring
import GuideSite.Proofs.Page.Steps
import GuideSite.Proofs.Page.Frame
import GuideSite.Proofs.Page.Targets
import GuideSite.Proofs.Page.Rebuilding
import GuideSite.Proofs.Page.Highlighting
import GuideSite.Proofs.Config.TocChecks
import GuideSite.Proofs.Config.PageEntries
import GuideSite.Proofs.Flags.Mapping
import GuideSite.Proofs.Links.Agreement
import GuideSite.Proofs.Links.Rooted
import GuideSite.Proofs.Masthead.Attributes
import GuideSite.Proofs.Masthead.Revealing
import GuideSite.Proofs.Site.Reordering
import GuideSite.Proofs.Command.Fragments
import GuideSite.Proofs.Config.Rewriting
import GuideSite.Proofs.Config.Nulls
import GuideSite.Proofs.Language.Ranking
import GuideSite.Proofs.Masthead.Handlers
import GuideSite.Proofs.Links.Course
import GuideSite.Proofs.Command.Printing
import GuideSite.Proofs.Path.Stack
