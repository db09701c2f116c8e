import GuideSite.Markup.Basic
import GuideSite.Proofs.Text.Trimming

/-!
# Reading markup

Markup is read back as a text and the pieces after it, each a tag with the text up to the next tag. A tag stands between
angle brackets, and the value of an attribute between double quotes; since texts and attributes are escaped, they bring
in neither.

* `readTag_opening`, `readTag_single`, `readTag_closing`: a tag is read back with its attributes.
* `read_chars_append`: what a fragment writes is read back token by token, whatever follows it.
* `tags_render`: the tags that are read are those that were written.
* `infix_render_iff`: a tag occurs in what was written just if it was written.
-/

namespace GuideSite.Markup

/-! ## Tags -/

/-- The attributes in the parts of a tag that its double quotes separate: a name and a value by turns. -/
def readAttributes : List (List Char) → List Attribute
  | name :: value :: parts =>
    ⟨String.ofList (unescape name.tail.dropLast), String.ofList (unescape value)⟩ :: readAttributes parts
  | _ => []

/-- The tag between whose angle brackets the characters stand; a comment is kept as it was written. -/
def readTag (body : List Char) : Token :=
  if body.head? = some '!' then .verbatim (String.ofList ('<' :: (body ++ ['>'])))
  else if body.head? = some '/' then .closing (String.ofList body.tail)
  else
    let name := String.ofList (body.takeWhile (· ≠ ' '))
    let attributes := readAttributes ((body.dropWhile (· ≠ ' ')).splitOn '"')
    if body.getLast? = some '/' then .single name attributes else .opening name attributes

/-- The name of a tag: letters and digits, at least one. -/
def IsTagName (name : String) : Prop :=
  name.toList ≠ [] ∧ ∀ c ∈ name.toList, c.isAlphanum = true

instance (name : String) : Decidable (IsTagName name) :=
  decidable_of_iff ((!name.toList.isEmpty && name.toList.all Char.isAlphanum) = true) (by simp [IsTagName])

theorem IsTagName.not_mem {name : String} (h : IsTagName name) {x : Char} (hx : x.isAlphanum = false) :
    x ∉ name.toList := fun hm => by
  have := h.2 x hm
  rw [hx] at this
  cases this

theorem IsTagName.exists_cons {name : String} (h : IsTagName name) :
    ∃ c cs, name.toList = c :: cs ∧ c ≠ '!' ∧ c ≠ '/' := by
  obtain ⟨c, cs, hc⟩ := List.exists_cons_of_ne_nil h.1
  have hmem : c ∈ name.toList := by rw [hc]; exact List.mem_cons_self
  exact ⟨c, cs, hc, fun e => h.not_mem rfl (e ▸ hmem), fun e => h.not_mem rfl (e ▸ hmem)⟩

/-- A written attribute holds no angle bracket. -/
theorem not_mem_attribute {x : Char} (hx : x = '<' ∨ x = '>') (a : Attribute) : x ∉ a.chars := by
  have hname := not_mem_escape (hx.imp_right .inl) a.name.toList
  have hvalue := not_mem_escape (hx.imp_right .inl) a.value.toList
  rcases hx with rfl | rfl <;> simp [Attribute.chars, hname, hvalue]

theorem not_mem_attributes {x : Char} (hx : x = '<' ∨ x = '>') (attributes : List Attribute) :
    x ∉ attributes.flatMap Attribute.chars := fun h =>
  have ⟨a, _, ha⟩ := List.mem_flatMap.1 h
  not_mem_attribute hx a ha

/-- A written tag holds no angle bracket between its own. -/
theorem not_mem_tag {tag : String} {x : Char} (h : IsTagName tag) (attributes : List Attribute)
    (hx : x = '<' ∨ x = '>') : x ∉ tag.toList ++ attributes.flatMap Attribute.chars := by
  have hname : x ∉ tag.toList := by rcases hx with rfl | rfl <;> exact h.not_mem rfl
  rw [List.mem_append, not_or]
  exact ⟨hname, not_mem_attributes hx attributes⟩

/-- Attributes are read back, with or without the slash of a single tag after them. -/
theorem readAttributes_splitOn (attributes : List Attribute) (ending : List Char) (h : '"' ∉ ending) :
    readAttributes ((attributes.flatMap Attribute.chars ++ ending).splitOn '"') = attributes := by
  induction attributes with
  | nil => rw [List.flatMap_nil, List.nil_append, List.splitOn_eq_singleton h]; rfl
  | cons a as ih =>
    have hname : '"' ∉ ' ' :: (escape a.name.toList ++ ['=']) := by
      simp [not_mem_escape (x := '"') (.inr (.inr (.inl rfl)))]
    have hvalue : '"' ∉ escape a.value.toList := not_mem_escape (.inr (.inr (.inl rfl))) _
    have hsplit : (a :: as).flatMap Attribute.chars ++ ending =
        (' ' :: (escape a.name.toList ++ ['='])) ++ '"' :: (escape a.value.toList ++
          '"' :: (as.flatMap Attribute.chars ++ ending)) := by
      simp [Attribute.chars]
    rw [hsplit, List.splitOn_append_cons_self_of_not_mem hname, List.splitOn_append_cons_self_of_not_mem hvalue,
      readAttributes, ih]
    simp [unescape_escape]

/-- The name of a tag ends where the attributes begin. -/
theorem span_tagName {tag : String} (h : IsTagName tag) {rest : List Char} (hrest : rest = [] ∨ rest.head? = some ' ') :
    (tag.toList ++ rest).takeWhile (· ≠ ' ') = tag.toList ∧ (tag.toList ++ rest).dropWhile (· ≠ ' ') = rest := by
  have hblank : ∀ c ∈ tag.toList, decide (c ≠ ' ') = true := fun c hc =>
    decide_eq_true fun e => h.not_mem (x := ' ') rfl (e ▸ hc)
  rw [List.takeWhile_append_of_pos hblank, List.dropWhile_append_of_pos hblank]
  rcases hrest with rfl | hrest
  · simp
  · obtain ⟨cs, rfl⟩ := List.head?_eq_some_iff.1 hrest
    simp

theorem head?_attributes (attributes : List Attribute) (ending : List Char)
    (h : ending = [] ∨ ending.head? = some ' ') :
    attributes.flatMap Attribute.chars ++ ending = [] ∨
      (attributes.flatMap Attribute.chars ++ ending).head? = some ' ' := by
  cases attributes with
  | nil => simpa using h
  | cons a as => exact .inr rfl

/-- A tag with attributes does not end with a slash. -/
theorem getLast?_opening {tag : String} (h : IsTagName tag) (attributes : List Attribute) :
    (tag.toList ++ attributes.flatMap Attribute.chars).getLast? ≠ some '/' := by
  rcases List.eq_nil_or_concat attributes with rfl | ⟨as, a, rfl⟩
  · intro hlast
    rw [List.flatMap_nil, List.append_nil] at hlast
    exact h.not_mem rfl (List.mem_of_getLast? hlast)
  · have hend : tag.toList ++ (as.concat a).flatMap Attribute.chars =
        (tag.toList ++ (as.flatMap Attribute.chars ++ ' ' :: (escape a.name.toList ++ '=' :: '"' ::
          escape a.value.toList))) ++ ['"'] := by
      simp [List.concat_eq_append, Attribute.chars]
    rw [hend, List.getLast?_concat]
    decide

theorem readTag_opening {tag : String} (h : IsTagName tag) (attributes : List Attribute) :
    readTag (tag.toList ++ attributes.flatMap Attribute.chars) = .opening tag attributes := by
  obtain ⟨c, cs, hc, hbang, hslash⟩ := h.exists_cons
  have hspan := span_tagName h (head?_attributes attributes [] (.inl rfl))
  rw [List.append_nil] at hspan
  have hread := readAttributes_splitOn attributes [] List.not_mem_nil
  rw [List.append_nil] at hread
  have hhead : (tag.toList ++ attributes.flatMap Attribute.chars).head? = some c := by simp [hc]
  simp only [readTag, hhead, Option.some.injEq, hbang, hslash, if_false, hspan, hread, getLast?_opening h,
    String.ofList_toList]

theorem readTag_single {tag : String} (h : IsTagName tag) (attributes : List Attribute) :
    readTag (tag.toList ++ attributes.flatMap Attribute.chars ++ [' ', '/']) = .single tag attributes := by
  obtain ⟨c, cs, hc, hbang, hslash⟩ := h.exists_cons
  have hspan := span_tagName h (head?_attributes attributes [' ', '/'] (.inr rfl))
  have hread := readAttributes_splitOn attributes [' ', '/'] (by decide)
  have hhead : (tag.toList ++ (attributes.flatMap Attribute.chars ++ [' ', '/'])).head? = some c := by simp [hc]
  have hlast : (tag.toList ++ (attributes.flatMap Attribute.chars ++ [' ', '/'])).getLast? = some '/' := by simp
  simp only [readTag, List.append_assoc, hhead, hlast, Option.some.injEq, hbang, hslash, if_false, if_true, hspan,
    hread, String.ofList_toList]

theorem readTag_closing (tag : String) : readTag ('/' :: tag.toList) = .closing tag := by
  simp [readTag]

/-! ## Pieces -/

/-- A tag and the text from there to the next tag. -/
structure Piece where
  tag : Token
  text : String
  deriving DecidableEq, Repr

/-- The piece that starts with an angle bracket and goes on with these characters. -/
def readPiece (cs : List Char) : Piece :=
  ⟨readTag (cs.takeWhile (· ≠ '>')), String.ofList (unescape (cs.dropWhile (· ≠ '>')).tail)⟩

/-- What is read from markup: the text before the first tag, and the pieces. -/
structure Reading where
  text : String
  pieces : List Piece
  deriving DecidableEq, Repr

/-- Markup read back. -/
def read (cs : List Char) : Reading :=
  ⟨String.ofList (unescape ((cs.splitOn '<').headD [])), (cs.splitOn '<').tail.map readPiece⟩

/-- The reading with a token before it: a text joins the text there, a tag starts a piece. -/
def Reading.prepend (r : Reading) : Token → Reading
  | .text content => ⟨content ++ r.text, r.pieces⟩
  | tag => ⟨"", ⟨tag, r.text⟩ :: r.pieces⟩

/-- The reading with the tokens of a fragment before it. -/
def Reading.after (r : Reading) (fragment : Fragment) : Reading :=
  fragment.foldr (fun token r => r.prepend token) r

@[simp]
theorem Reading.after_nil (r : Reading) : r.after [] = r := rfl

@[simp]
theorem Reading.after_cons (r : Reading) (token : Token) (fragment : Fragment) :
    r.after (token :: fragment) = (r.after fragment).prepend token := rfl

@[simp]
theorem Reading.after_append (r : Reading) (f g : Fragment) : r.after (f ++ g) = (r.after g).after f :=
  List.foldr_append

/-- A piece that is written as it is and is a comment or a declaration, with no angle bracket inside. -/
def IsRemark (content : String) : Prop :=
  ∃ body : List Char, content.toList = '<' :: '!' :: (body ++ ['>']) ∧ '<' ∉ body ∧ '>' ∉ body

/-- The token can be read back: it is a text, a tag with a proper name, or a comment. -/
def Token.IsReadable : Token → Prop
  | .opening tag _ => IsTagName tag
  | .single tag _ => IsTagName tag
  | .closing tag => IsTagName tag
  | .text _ => True
  | .verbatim content => IsRemark content

@[simp]
theorem isReadable_single {tag : String} {attributes : List Attribute} :
    (Token.single tag attributes).IsReadable ↔ IsTagName tag := Iff.rfl

@[simp]
theorem isReadable_verbatim {content : String} : (Token.verbatim content).IsReadable ↔ IsRemark content := Iff.rfl

@[simp]
theorem isReadable_text (content : String) : (Token.text content).IsReadable := trivial

@[simp]
theorem isReadable_newline (indent : Nat) : (newline indent).IsReadable := trivial

/-- Every token of the fragment can be read back. -/
def IsReadable (f : Fragment) : Prop := ∀ token ∈ f, token.IsReadable

@[simp]
theorem isReadable_nil : IsReadable [] := fun _ h => absurd h List.not_mem_nil

@[simp]
theorem isReadable_cons {token : Token} {f : Fragment} :
    IsReadable (token :: f) ↔ token.IsReadable ∧ IsReadable f :=
  List.forall_mem_cons

@[simp]
theorem isReadable_append {f g : Fragment} : IsReadable (f ++ g) ↔ IsReadable f ∧ IsReadable g :=
  List.forall_mem_append

@[simp]
theorem isReadable_element {tag : String} {attributes : List Attribute} {content : Fragment} :
    IsReadable (element tag attributes content) ↔ IsTagName tag ∧ IsReadable content := by
  simp only [element, isReadable_cons, isReadable_append, Token.IsReadable, isReadable_nil, and_true]
  exact ⟨fun h => ⟨h.1, h.2.1⟩, fun h => ⟨h.1, h.2, h.1⟩⟩

theorem isReadable_flatMap {α : Type} {g : α → Fragment} {xs : List α} (h : ∀ x ∈ xs, IsReadable (g x)) :
    IsReadable (xs.flatMap g) := fun token ht =>
  have ⟨x, hx, hmem⟩ := List.mem_flatMap.1 ht
  h x hx token hmem

/-! ## Reading what was written -/

theorem unescape_escape_append (s cs : List Char) : unescape (escape s ++ cs) = s ++ unescape cs := by
  induction s with
  | nil => rfl
  | cons c s ih =>
    rw [escape, List.flatMap_cons, List.append_assoc, unescape_escapeChar_append, ← escape, ih, List.cons_append]

/-- A written text is read as the start of the text. -/
theorem read_text (content : String) (cs : List Char) :
    read (escape content.toList ++ cs) = (read cs).prepend (.text content) := by
  have hbracket : '<' ∉ escape content.toList := not_mem_escape (.inl rfl) _
  obtain ⟨chunk, chunks, hsplit⟩ := List.exists_cons_of_ne_nil (List.splitOn_ne_nil '<' cs)
  simp [read, Text.splitOn_append_of_not_mem hbracket, hsplit, Reading.prepend, unescape_escape_append,
    String.ofList_append]

/-- Characters between angle brackets are read as the tag of a piece. -/
theorem read_tag {body : List Char} (hopen : '<' ∉ body) (hclose : '>' ∉ body) (cs : List Char) :
    read ('<' :: (body ++ '>' :: cs)) = ⟨"", ⟨readTag body, (read cs).text⟩ :: (read cs).pieces⟩ := by
  have hbody : '<' ∉ body ++ ['>'] := by simp [hopen]
  have htake : ∀ c ∈ body, decide (c ≠ '>') = true := fun c hc => decide_eq_true fun e => hclose (e ▸ hc)
  obtain ⟨chunk, chunks, hsplit⟩ := List.exists_cons_of_ne_nil (List.splitOn_ne_nil '<' cs)
  have hrest : (body ++ '>' :: cs).splitOn '<' = (body ++ '>' :: chunk) :: chunks := by
    rw [List.append_cons, Text.splitOn_append_of_not_mem hbody, hsplit]
    simp
  have hpiece : readPiece (body ++ '>' :: chunk) = ⟨readTag body, String.ofList (unescape chunk)⟩ := by
    simp only [readPiece, List.takeWhile_append_of_pos htake, List.dropWhile_append_of_pos htake]
    simp
  rw [read, List.splitOn_cons_eq_if_modifyHead, if_pos (beq_self_eq_true '<'), hrest]
  simp [read, hsplit, hpiece, unescape]

/-- A token is read back before whatever follows it. -/
theorem read_token {token : Token} (h : token.IsReadable) (cs : List Char) :
    read (token.chars ++ cs) = (read cs).prepend token := by
  cases token with
  | opening tag attributes =>
    have hread := read_tag (not_mem_tag h attributes (.inl rfl)) (not_mem_tag h attributes (.inr rfl)) cs
    rw [readTag_opening h] at hread
    simpa [Token.chars, Reading.prepend] using hread
  | single tag attributes =>
    have hbracket : ∀ x : Char, x = '<' ∨ x = '>' →
        x ∉ tag.toList ++ attributes.flatMap Attribute.chars ++ [' ', '/'] := by
      intro x hx hmem
      obtain htag | hslash := List.mem_append.1 hmem
      · exact not_mem_tag h attributes hx htag
      · obtain rfl | rfl := hx <;> revert hslash <;> decide
    have hread := read_tag (hbracket '<' (.inl rfl)) (hbracket '>' (.inr rfl)) cs
    rw [readTag_single h] at hread
    simpa [Token.chars, Reading.prepend] using hread
  | closing tag =>
    have hopen : '<' ∉ '/' :: tag.toList := by simp [h.not_mem (x := '<') rfl]
    have hclose : '>' ∉ '/' :: tag.toList := by simp [h.not_mem (x := '>') rfl]
    have hread := read_tag hopen hclose cs
    rw [readTag_closing] at hread
    simpa [Token.chars, Reading.prepend] using hread
  | text content => exact read_text content cs
  | verbatim content =>
    obtain ⟨body, hcontent, hopen, hclose⟩ := h
    have hread := @read_tag ('!' :: body) (by simp [hopen]) (by simp [hclose]) cs
    have htag : readTag ('!' :: body) = .verbatim content := by
      rw [← String.ofList_toList (s := content), hcontent]
      rfl
    rw [htag] at hread
    simpa [Token.chars, Reading.prepend, hcontent] using hread

/-- What a fragment writes is read back token by token, whatever follows it. -/
theorem read_chars_append {f : Fragment} (h : IsReadable f) (cs : List Char) :
    read (chars f ++ cs) = (read cs).after f := by
  induction f with
  | nil => rfl
  | cons token f ih =>
    obtain ⟨htoken, hf⟩ := isReadable_cons.1 h
    have hchars : chars (token :: f) ++ cs = token.chars ++ (chars f ++ cs) := by simp [chars]
    rw [hchars, read_token htoken, ih hf, Reading.after_cons]

/-! ## The tags of a text -/

/-- The token is a tag or a comment. -/
def Token.isTag : Token → Bool
  | .text _ => false
  | _ => true

/-- The tags that are read from a text, in order. -/
def tags (html : String) : List Token := (read html.toList).pieces.map Piece.tag

/-- The name of a tag, with a slash before it if the tag closes. -/
def Token.tagName : Token → String
  | .opening tag _ => tag
  | .single tag _ => tag
  | .closing tag => "/" ++ tag
  | _ => ""

theorem map_tag_pieces_after (r : Reading) (f : Fragment) :
    (r.after f).pieces.map Piece.tag = f.filter Token.isTag ++ r.pieces.map Piece.tag := by
  induction f with
  | nil => rfl
  | cons token f ih => cases token <;> simp [Reading.prepend, Token.isTag, List.filter_cons, ih]

/-- The tags that are read are those that were written, and then those of what follows. -/
theorem tags_render_append {f : Fragment} (h : IsReadable f) (rest : String) :
    tags (render f ++ rest) = f.filter Token.isTag ++ tags rest := by
  rw [tags, render, String.toList_append, String.toList_ofList, read_chars_append h, map_tag_pieces_after, tags]

/-- The tags that are read are those that were written. -/
theorem tags_render {f : Fragment} (h : IsReadable f) :
    tags (render f) = f.filter Token.isTag := by
  have hread := tags_render_append h ""
  rwa [String.append_empty, show tags "" = [] from rfl, List.append_nil] at hread

/-- An angle bracket ends what stands before it. -/
theorem pieces_read_append (before cs : List Char) :
    (read (before ++ '<' :: cs)).pieces = (read before).pieces ++ (read ('<' :: cs)).pieces := by
  have hsplit : ('<' :: cs).splitOn '<' = [] :: cs.splitOn '<' := by
    rw [← List.nil_append ('<' :: cs), List.splitOn_append_cons_self]
    rfl
  simp only [read, hsplit, List.splitOn_append_cons_self, List.tail_cons,
    List.tail_append_of_ne_nil (List.splitOn_ne_nil '<' before), List.map_append]

/-- A tag that occurs in a text is read there, whatever stands around it. -/
theorem mem_tags_of_infix {tag html : String} (h : IsTagName tag) {attributes : List Attribute}
    (hin : (Token.opening tag attributes).chars <:+: html.toList) : .opening tag attributes ∈ tags html := by
  obtain ⟨before, after, hhtml⟩ := hin
  have hplace : html.toList =
      before ++ '<' :: (tag.toList ++ attributes.flatMap Attribute.chars ++ '>' :: after) := by
    rw [← hhtml]
    simp [Token.chars]
  rw [tags, hplace, pieces_read_append, List.map_append,
    read_tag (not_mem_tag h attributes (.inl rfl)) (not_mem_tag h attributes (.inr rfl)), readTag_opening h]
  exact List.mem_append_right _ List.mem_cons_self

/-- A tag occurs in a text that was written just if it was written as a tag: no text and no attribute forges it. -/
theorem infix_render_iff {f : Fragment} (hf : IsReadable f) {tag : String} (h : IsTagName tag)
    {attributes : List Attribute} :
    (Token.opening tag attributes).chars <:+: (render f).toList ↔ .opening tag attributes ∈ f := by
  constructor
  · intro hin
    have hmem := mem_tags_of_infix h hin
    rw [tags_render hf] at hmem
    exact (List.mem_filter.1 hmem).1
  · intro hmem
    rw [render, String.toList_ofList]
    exact List.infix_of_mem_flatten (List.mem_map_of_mem hmem)

end GuideSite.Markup
