import GuideSite.Proofs.Masthead.Reading
import GuideSite.Proofs.Script.Reading

/-!
# The handlers of the search box

The search box is the only input of a masthead. Its handlers for keys hand the way to the root over to the search
script, as a literal inside of a statement that is itself the value of an attribute; both layers are read back to the
text that went in.

* `inputs_render`: the attributes of the search box, read from a masthead.
* `keyHandlers_readLiteral`: what the script gets when a key goes down or up.
-/

namespace GuideSite.Masthead

open Markup
open Script (SearchHandlers IsPlainAscii readLiteral ofUnits? units)

/-! ## Inputs -/

/-- The attributes of a token that is an input. -/
def input? : Token → Option (List Attribute)
  | .single tag attributes => if tag = "input" then some attributes else none
  | _ => none

/-- The attributes of the inputs that are read from a text. -/
def inputs (html : String) : List (List Attribute) := (tags html).filterMap input?

/-- The values that the inputs of a text give to an attribute. -/
def inputValues (name html : String) : List String :=
  (inputs html).flatMap fun attributes => (attributes.filter (·.name = name)).map Attribute.value

/-- The attributes of the search box. -/
def inputAttributes (s : SearchHandlers) : List Attribute :=
  [⟨"id", "search_autocomplete"⟩, ⟨"type", "text"⟩, ⟨"value", ""⟩, ⟨"autocomplete", "off"⟩, ⟨"name", "q"⟩,
    ⟨"onfocus", s.focus⟩, ⟨"onblur", s.blur⟩, ⟨"onkeydown", s.keyDown⟩, ⟨"onkeyup", s.keyUp⟩]

/-- No text is an input. -/
theorem filterMap_input?_filter (f : Fragment) : (f.filter Token.isTag).filterMap input? = f.filterMap input? := by
  rw [List.filterMap_filter]
  refine List.filterMap_congr fun token _ => ?_
  cases token <;> rfl

theorem filterMap_input?_flatMap {α : Type} {g : α → Fragment} (h : ∀ x, (g x).filterMap input? = []) (xs : List α) :
    (xs.flatMap g).filterMap input? = [] := by
  rw [List.filterMap_flatMap, List.flatMap_eq_nil_iff]
  exact fun x _ => h x

theorem filterMap_input?_items (indent : Nat) (items : List MastheadItem) :
    (itemsMarkup indent items).filterMap input? = [] :=
  filterMap_input?_flatMap (fun _ => rfl) items

theorem filterMap_input?_header (v : View) : (headerMarkup v).filterMap input? = [inputAttributes v.search] := by
  have hlogo : (logoMarkup v).filterMap input? = [] := rfl
  have hmore : (moreMarkup v).filterMap input? = [] := by
    have hlinks : (v.moreLinks.flatMap moreLinkMarkup).filterMap input? = [] :=
      filterMap_input?_flatMap (fun _ => rfl) _
    simp only [moreMarkup, emptyBlock, element, List.cons_append, List.filterMap_cons, List.filterMap_append, hlinks]
    rfl
  have hquicknav : (quicknavMarkup v).filterMap input? = [] := by
    simp only [quicknavMarkup, element, List.cons_append, List.filterMap_cons, List.filterMap_append,
      filterMap_input?_items]
    rfl
  have hsearch : (searchMarkup v.search).filterMap input? = [inputAttributes v.search] := rfl
  simp only [headerMarkup, element, List.cons_append, List.filterMap_cons, List.filterMap_append,
    filterMap_input?_items, hlogo, hmore, hquicknav, hsearch]
  rfl

theorem filterMap_input?_markup (v : View) : (markup v).filterMap input? = [inputAttributes v.search] := by
  have hresults : (resultsMarkup).filterMap input? = [] := rfl
  have hsecondary : (secondaryMarkup v).filterMap input? = [] := by
    simp only [secondaryMarkup, element, List.cons_append, List.filterMap_cons, List.filterMap_append,
      filterMap_input?_items]
    rfl
  simp only [markup, List.filterMap_append, filterMap_input?_header, hresults]
  cases v.showsSecondary with
  | false => rfl
  | true =>
    simp only [if_true, List.filterMap_cons, hsecondary]
    rfl

/-- The search box is the only input of a masthead. -/
theorem inputs_render (m : Masthead) (order : List String) (calls : Script.SearchCalls) (toRoot : String)
    (flags : SectionFlags) (language : String) :
    inputs (m.render order calls toRoot flags language) = [inputAttributes (calls.handlers toRoot)] := by
  rw [inputs, render, fragment, tags_render (isReadable_markup _), filterMap_input?_filter, filterMap_input?_markup]
  rfl

/-! ## Keys -/

theorem keyChanged_standard (down : Bool) (toRoot : String) :
    Script.SearchCalls.standard.keyChanged down toRoot =
      "return search_changed(event, " ++ Script.truthText down ++ ", " ++ Script.apostropheLiteral toRoot ++ ")" :=
  rfl

/-- **The handlers for keys carry the way to the root.** The statements that are read from the attributes hand over one
and the same literal, in printable characters of ASCII. It is read up to its last apostrophe, whatever follows it, as
the UTF-16 units of the way to the root, and these give the text. -/
theorem keyHandlers_readLiteral (m : Masthead) (order : List String) (toRoot : String) (flags : SectionFlags)
    (language : String) : ∃ literal : String,
    inputValues "onkeydown" (m.render order .standard toRoot flags language) =
      ["return search_changed(event, true, " ++ literal ++ ")"] ∧
    inputValues "onkeyup" (m.render order .standard toRoot flags language) =
      ["return search_changed(event, false, " ++ literal ++ ")"] ∧
    (∀ c ∈ literal.toList, IsPlainAscii c) ∧
    (∀ rest, readLiteral (literal.toList ++ rest) = some (toRoot.toList.flatMap units, rest)) ∧
    ofUnits? (toRoot.toList.flatMap units) = some toRoot.toList := by
  have hvalues : ∀ name, inputValues name (m.render order .standard toRoot flags language) =
      ((inputAttributes (Script.SearchCalls.standard.handlers toRoot)).filter (·.name = name)).map Attribute.value :=
    fun name => by
      rw [inputValues, inputs_render]
      exact List.flatMap_singleton _ _
  refine ⟨Script.apostropheLiteral toRoot, ?_, ?_, Script.isPlainAscii_apostropheLiteral toRoot,
    Script.readLiteral_apostropheLiteral toRoot, Script.ofUnits?_flatMap_units _⟩
  · rw [hvalues]
    exact congrArg (fun call => [call]) (keyChanged_standard true toRoot)
  · rw [hvalues]
    exact congrArg (fun call => [call]) (keyChanged_standard false toRoot)

/-- An apostrophe, a backslash, a line break and a character beyond the first 65536. -/
example : (Script.apostropheLiteral "a'\\\n😀").toList = "'a\\'\\\\\\n\\ud83d\\ude00'".toList := by decide

end GuideSite.Masthead
