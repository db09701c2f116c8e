import GuideSite.Site.Basic

/-!
# The catalogue of links

Every link inside a site is a path below its root, and the catalogue lists those that the table of contents and the
masthead use: each once, by code points, without the empty one. The menu of other sites is left out.
-/

namespace GuideSite.Links

mutual

/-- The links of a node and of the nodes below it. -/
def ofNode : NavNode → List String
  | ⟨_, link, _, children⟩ => link :: ofNodes children

/-- The links of a list of nodes, with those below them. -/
def ofNodes : List NavNode → List String
  | [] => []
  | n :: ns => ofNode n ++ ofNodes ns

end

/-- The links of the masthead. -/
def ofMasthead (m : Masthead) : List String :=
  m.logo.link :: m.logo.src :: (m.primary ++ m.secondary ++ m.quicknav).map (·.link)

/-- The catalogue of a site. -/
def catalogue (site : Site) : List String :=
  (NameSet.ofList ((ofNodes site.toc ++ ofMasthead site.masthead).filter (· ≠ ""))).toList

end GuideSite.Links
