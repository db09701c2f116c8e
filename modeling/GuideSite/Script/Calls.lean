import GuideSite.Script.Literal

/-!
# Calls into the scripts of a site

The pages do not search or fold anything themselves; they call scripts that do. `SearchCalls` and `NavCalls` say what is
called, so a site with scripts of its own can replace the standard calls.
-/

namespace GuideSite.Script

/-- The name of a truth value in scripts. -/
def truthText (b : Bool) : String := if b then "true" else "false"

/-! ## Search -/

/-- The calls of the search box. -/
structure SearchCalls where
  /-- The search is submitted. -/
  submit : String
  /-- The box gains or loses the focus. -/
  focusChanged : (gained : Bool) → String
  /-- A key goes down or up on a page that reaches the root by `toRoot`. -/
  keyChanged : (down : Bool) → (toRoot : String) → String

/-- The calls to the standard search script. -/
def SearchCalls.standard : SearchCalls where
  submit := "return submit_search()"
  focusChanged gained := s!"search_focus_changed(this, {truthText gained})"
  keyChanged down toRoot := s!"return search_changed(event, {truthText down}, {apostropheLiteral toRoot})"

/-- The calls of the search box of one page. -/
structure SearchHandlers where
  submit : String
  focus : String
  blur : String
  keyDown : String
  keyUp : String
  deriving DecidableEq

/-- The calls for a page that reaches the root by `toRoot`. -/
def SearchCalls.handlers (calls : SearchCalls) (toRoot : String) : SearchHandlers where
  submit := calls.submit
  focus := calls.focusChanged true
  blur := calls.focusChanged false
  keyDown := calls.keyChanged true toRoot
  keyUp := calls.keyChanged false toRoot

/-! ## Navigation -/

/-- The statements that bring the navigation tree to life. -/
structure NavCalls where
  /-- Make the sections foldable. -/
  foldSections : String
  /-- Show the labels of the preferred language. -/
  changeLanguage : String
  deriving DecidableEq

/-- The calls to the standard navigation script, which finds the preferred language by an expression. -/
def NavCalls.preferring (expression : String) : NavCalls where
  foldSections := "buildToggleLists();"
  changeLanguage := s!"changeNavLang({expression});"

/-- The calls to the standard navigation script. -/
def NavCalls.standard : NavCalls := .preferring "getLangPref()"

end GuideSite.Script
