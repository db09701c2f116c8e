import GuideSite.Markup.Basic
import GuideSite.Script.Literal

/-!
# The page shell

A page is a shell around its masthead, its navigation and a place for its content.
-/

namespace GuideSite.Page

open Markup

/-- What the shell of a page says about it. -/
structure Shell where
  title : String
  siteName : String
  toRoot : String
  language : String

/-- The page up to the masthead. -/
def headMarkup (s : Shell) : Fragment :=
  [.verbatim "<!DOCTYPE html>", newline 0, .opening "html" [⟨"lang", s.language⟩], newline 0] ++
  element "head" [] (
    [newline 2, .single "meta" [⟨"charset", "utf-8"⟩], newline 2] ++
    element "title" [] [.text (s.title ++ " | " ++ s.siteName)] ++
    [newline 2, .single "link" [⟨"href", s.toRoot ++ "assets/css/default.css"⟩, ⟨"rel", "stylesheet"⟩,
      ⟨"type", "text/css"⟩], newline 2] ++
    element "script" [⟨"src", s.toRoot ++ "assets/js/docs.js"⟩, ⟨"type", "text/javascript"⟩] [] ++
    newline 2 :: element "script" [⟨"type", "text/javascript"⟩]
      [.verbatim ("var toRoot = " ++ Script.markupSafeLiteral s.toRoot ++ ";")] ++
    [newline 0]) ++
  [newline 0, .opening "body" [⟨"class", "gc-documentation"⟩], newline 0]

/-- The page between the masthead and the navigation. -/
def middleMarkup : Fragment :=
  [newline 0, .opening "div" [⟨"class", "wrap clearfix"⟩, ⟨"id", "body-content"⟩],
    newline 2, .opening "div" [⟨"class", "col-4"⟩, ⟨"id", "side-nav"⟩],
    newline 4, .opening "div" [⟨"id", "devdoc-nav"⟩], newline 0]

/-- The page after the navigation. -/
def tailMarkup (s : Shell) : Fragment :=
  [newline 4, .closing "div", newline 2, .closing "div", newline 2] ++
  element "div" [⟨"class", "col-12"⟩, ⟨"id", "doc-col"⟩] (
    newline 4 :: element "h1" [⟨"itemprop", "name"⟩] [.text s.title] ++
    newline 4 :: element "div" [⟨"id", "jd-content"⟩] [] ++
    [newline 2]) ++
  [newline 0, .closing "div", newline 0, .closing "body", newline 0, .closing "html", newline 0]

/-- The page around its masthead and its navigation. -/
def markup (s : Shell) (masthead navigation : Fragment) : Fragment :=
  headMarkup s ++ masthead ++ middleMarkup ++ navigation ++ tailMarkup s

end GuideSite.Page
