import GuideSite.Config.Field
import GuideSite.Site.Masthead
import GuideSite.Text.Numeral

/-!
# The masthead in a configuration

Every part of the `masthead` setting may be left out; the part of the stock masthead then stands. A bar that is given
replaces the stock bar as a whole.
-/

namespace GuideSite.Config

/-! ## The logo -/

/-- The text of bytes; those beyond ASCII are no digits, whatever they stand for. -/
def asciiText (data : List UInt8) : String :=
  String.ofList (data.map fun b => if b.toNat < 0x80 then Char.ofNat b.toNat else '\uFFFD')

/-- A text read as an integer. -/
def sizeOfText (s : String) : Except Error Int :=
  match Text.readInt? s with
  | some n => .ok n
  | none => .error (.config .logoSize)

/-- A width or height: a truth value counts as one or zero, a number loses its fraction, a text is read as an integer.
-/
def size : Value → Except Error Int
  | .bool b => .ok (if b then 1 else 0)
  | .int n => .ok n
  | .float (.infinite _) => .error .infiniteSize
  | .float x => match x.truncate? with
    | some n => .ok n
    | none => .error (.config .logoSize)
  | .text s => sizeOfText s
  | .bytes data => sizeOfText (asciiText data)
  | _ => .error (.config .logoSize)

/-- The size under a key; only a key that is not there leaves the stock size. -/
def sizeOr (entries : Value.Entries) (key : String) (stock : Int) : Except Error Int :=
  match Value.find? key entries with
  | some v => size v
  | none => .ok stock

/-- The text under a key, or the stock text if it is blank. -/
def textOr (entries : Value.Entries) (key stock : String) : Except Error String := do
  return (← optionalText (Value.get entries key)).getD stock

/-- The logo, part by part. -/
def logo (stock : Logo) (v : Value) : Except Error Logo :=
  match v with
  | .null => .ok stock
  | v => match v.entries? with
    | none => .error (.config .logo)
    | some entries => do
      let width ← sizeOr entries "width" stock.width
      let height ← sizeOr entries "height" stock.height
      return {
        src := ← textOr entries "src" stock.src, alt := ← textOr entries "alt" stock.alt
        width, height, link := ← textOr entries "link" stock.link }

/-! ## Bars -/

/-- One entry of a bar. It has the keys `label` and `link`. -/
def mastheadEntry (bar : String) (v : Value) : Except Error MastheadEntry :=
  match v.entries? with
  | none => .error (.config (.barEntry bar))
  | some entries =>
    match Value.find? "label" entries, Value.find? "link" entries with
    | some label, some link => do
      let label ← requiredText (.barEntry bar) "label" label
      let link ← requiredText (.mastheadEntry label) "link" link
      let selectedBy ← names (Value.get entries "selected_by")
      let excludedBy ← names (Value.get entries "excluded_by")
      let translations ← labels (.mastheadEntry label) (Value.get entries "translations")
      let cssClass ← optionalText (Value.get entries "css_class")
      return { label, link := Text.dropSlashes link, selectedBy, excludedBy, translations, cssClass }
    | _, _ => .error (.config (.barEntry bar))

/-- The entries of a bar, or the stock ones. -/
def mastheadBar (bar : String) (stock : List MastheadEntry) (v : Value) : Except Error (List MastheadEntry) :=
  match v with
  | .null => .ok stock
  | v => match v.items? with
    | some items => items.mapM (mastheadEntry bar)
    | none => .error (.config (.bar bar))

/-! ## The menu of other sites -/

/-- One link of the menu. It has the keys `label` and `href`. -/
def moreLink (v : Value) : Except Error ExternalLink :=
  match v.entries? with
  | none => .error (.config .moreLink)
  | some entries =>
    match Value.find? "label" entries, Value.find? "href" entries with
    | some label, some href => do
      let label ← requiredText .moreLink "label" label
      let href ← requiredText .moreLink "href" href
      return { label, href }
    | _, _ => .error (.config .moreLink)

/-- The links of the menu, or the stock ones. -/
def moreLinks (stock : List ExternalLink) (v : Value) : Except Error (List ExternalLink) :=
  match v with
  | .null => .ok stock
  | v => match v.items? with
    | some items => items.mapM moreLink
    | none => .error (.config .moreLinks)

/-! ## The masthead -/

/-- The list, or the other one if it is empty. -/
def orStock (given stock : List String) : List String :=
  if given = [] then stock else given

/-- The masthead of the `masthead` setting. -/
def masthead (v : Value) : Except Error Masthead :=
  match v with
  | .null => .ok .stock
  | v => match v.entries? with
    | none => .error (.config .masthead)
    | some entries => do
      let stock := Masthead.stock
      let logo ← logo stock.logo (Value.get entries "logo")
      let primary ← mastheadBar "primary" stock.primary (Value.get entries "primary")
      let secondary ← mastheadBar "secondary" stock.secondary (Value.get entries "secondary")
      let quicknav ← mastheadBar "quicknav" stock.quicknav (Value.get entries "quicknav")
      let moreLinks ← moreLinks stock.moreLinks (Value.get entries "more_links")
      let barFlags ← names (Value.get entries "x_nav_flags")
      let moreHeading ← textOr entries "more_heading" stock.moreHeading
      let sectionClass ← textOr entries "section_class" stock.sectionClass
      return {
        logo, primary, secondary, quicknav, moreLinks, moreHeading, sectionClass
        barFlags := orStock barFlags stock.barFlags }

end GuideSite.Config
