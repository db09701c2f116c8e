import GuideSite.Markup.Escape

/-!
# Markup

The markup of a page is a sequence of tokens: tags with attributes, texts, and pieces that are written as they are.
Texts, attribute names and attribute values are escaped when a token is written, and nowhere else.
-/

namespace GuideSite.Markup

/-- An attribute of a tag. -/
structure Attribute where
  name : String
  value : String
  deriving DecidableEq, Repr

/-- A piece of markup. -/
inductive Token
  /-- An opening tag. -/
  | opening (tag : String) (attributes : List Attribute)
  /-- A tag that has no content and closes itself. -/
  | single (tag : String) (attributes : List Attribute)
  | closing (tag : String)
  | text (content : String)
  /-- Something that is written as it is: a comment, a script, finished markup. -/
  | verbatim (content : String)
  deriving DecidableEq, Repr

/-- A sequence of tokens. -/
abbrev Fragment := List Token

/-! ## Writing -/

/-- An attribute with its value between double quotes. -/
def Attribute.chars (a : Attribute) : List Char :=
  ' ' :: (escape a.name.toList ++ '=' :: '"' :: (escape a.value.toList ++ ['"']))

/-- A token as characters. -/
def Token.chars : Token → List Char
  | .opening tag attributes => '<' :: (tag.toList ++ attributes.flatMap Attribute.chars ++ ['>'])
  | .single tag attributes => '<' :: (tag.toList ++ attributes.flatMap Attribute.chars ++ [' ', '/', '>'])
  | .closing tag => '<' :: '/' :: (tag.toList ++ ['>'])
  | .text content => escape content.toList
  | .verbatim content => content.toList

/-- A fragment as characters. -/
def chars (fragment : Fragment) : List Char := fragment.flatMap Token.chars

/-- A fragment as text. -/
def render (fragment : Fragment) : String := String.ofList (chars fragment)

theorem chars_append (f g : Fragment) : chars (f ++ g) = chars f ++ chars g :=
  List.flatMap_append

theorem render_append (f g : Fragment) : render (f ++ g) = render f ++ render g := by
  rw [render, chars_append, String.ofList_append, render, render]

/-! ## Building -/

/-- An element with its content. -/
def element (tag : String) (attributes : List Attribute) (content : Fragment) : Fragment :=
  .opening tag attributes :: (content ++ [.closing tag])

/-- A line break and the blanks that the next line starts with. -/
def newline (indent : Nat) : Token :=
  .text (String.ofList ('\n' :: List.replicate indent ' '))

end GuideSite.Markup
