import GuideSite.Config.Field
import GuideSite.Site.Nav

/-!
# The table of contents in a configuration

The `toc` setting is a list of mappings with a `title`, a `link`, `labels` in other languages and `children`. Each
entry is checked before the entries below it, and those before the entries after it, so the fault found is the first
in the order of the document. An entry is known by its position until its title is.
-/

namespace GuideSite.Config

/-- The title of an entry: its own, or its label in the standard language. -/
def tocTitle (trail : List Nat) (entries : Value.Entries) (labels : Dictionary String) : Except Error String := do
  match ← optionalText (Value.get entries "title") with
  | some title => return title
  | none => match labels.find? Language.standard with
    | some title => return title
    | none => throw (.config (.missing (.tocEntryAt trail) "title"))

/-- The entries below an entry; a value that counts as not given has none. -/
def tocChildren (title : String) (v : Value) : Except Error (List Value) :=
  match v.items? with
  | some items => .ok items
  | none => if v.isVoid then .ok [] else .error (.config (.tocChildren title))

/-- The node of one entry; `trail` is its position, outermost first, and `depth` how far entries may be nested from
here. -/
def tocNode : (depth : Nat) → (trail : List Nat) → Value → Except Error NavNode
  | 0, _, _ => .error .endlessToc
  | depth + 1, trail, v =>
    match v.entries? with
    | none => .error (.config (.tocEntry trail))
    | some entries => do
      let labels ← labels (.tocEntryAt trail) (Value.get entries "labels")
      let title ← tocTitle trail entries labels
      let link ← requiredText (.tocEntry title) "link" (Value.get entries "link")
      let below ← tocChildren title (Value.get entries "children")
      let children ← below.zipIdx.mapM fun (child, i) => tocNode depth (trail ++ [i]) child
      return { title, link := Text.dropSlashes link, labels := labels.erase Language.standard, children }

/-- The table of contents of the `toc` setting, which has at least one entry. No entry is nested deeper than the values
are many that the setting is made of, unless the setting holds itself. -/
def toc (v : Value) : Except Error (List NavNode) :=
  match v.items? with
  | some [] => .error (.config .tocEmpty)
  | some items => items.zipIdx.mapM fun (entry, i) => tocNode (Value.sizeItems items) [i] entry
  | none => .error (.config .tocNotList)

end GuideSite.Config
