import GuideSite.Yaml.Property

/-!
# The layout of a text

A `Layout` is how far a text has been read into tokens: the place reached, the indentation of the block collections
and the brackets of the flow collections that are open there, and the tokens so far. A key need not be announced; so
the places where one may have started are kept until a colon confirms them or the line ends. Tokens after such a place
are not yet settled: when the text cannot be read any further, they are given up.

* `Token.ofChars`: the tokens of a text.
-/

namespace GuideSite.Yaml

/-- A place where a key may have started; `token` tells how many tokens came before it. -/
structure KeyPlace where
  token : Nat
  /-- The indentation leaves no other choice. -/
  required : Bool
  index : Nat
  line : Nat
  column : Nat

/-- A kind of flow collection. -/
inductive Bracket
  | sequence
  | mapping
  deriving DecidableEq

/-- How far a text has been read. -/
structure Layout where
  /-- The version of the language, as far as it is known. -/
  version : Version
  cursor : Cursor
  tokens : Array Token
  /-- The column of the innermost block collection, -1 outside of all. -/
  indent : Int
  /-- The columns of those around it, the innermost first. -/
  outer : List Int
  /-- The open brackets, the innermost first, each with the key place of the collection around it. -/
  brackets : List (Bracket × Option KeyPlace)
  keyAllowed : Bool
  keyPlace : Option KeyPlace

namespace Layout

/-- The start of a text; a byte order mark there is left out. -/
def start (cs : List Char) : Layout where
  version := .standard
  cursor := let p := Cursor.start cs; if cs.head? = some byteOrderMark then p.next else p
  tokens := #[]
  indent := -1
  outer := []
  brackets := []
  keyAllowed := true
  keyPlace := none

/-- A flow collection is open. -/
def inFlow (s : Layout) : Bool := !s.brackets.isEmpty

/-- One more token. -/
def push (s : Layout) (t : Token) : Layout := { s with tokens := s.tokens.push t }

/-- A token of some characters, and the place after them. -/
def take (s : Layout) (count : Nat) (t : Token) : Layout :=
  { s.push t with cursor := s.cursor.skip count }

/-- A token that ends where a given text is left to read. -/
def takeUpTo (s : Layout) (after : List Char) (t : Token) : Layout :=
  { s.push t with cursor := s.cursor.upTo after }

/-! ## Places of keys -/

/-- The most characters that a key may have if only its colon announces it. -/
def maxKeyLength : Nat := 1024

/-- The place is too far back for a key. -/
def isStale (p : Cursor) (k : KeyPlace) : Bool :=
  k.line ≠ p.line || maxKeyLength < p.index - k.index

/-- The key place unless it is stale; a required one must not be. -/
def freshPlace? (p : Cursor) : Option KeyPlace → Option (Option KeyPlace)
  | none => some none
  | some k => if isStale p k then if k.required then none else some none else some (some k)

/-- The layout without stale key places. -/
def dropStale? (s : Layout) : Option Layout := do
  let brackets ← s.brackets.mapM fun (b, k) => (freshPlace? s.cursor k).map (b, ·)
  let keyPlace ← freshPlace? s.cursor s.keyPlace
  return { s with brackets, keyPlace }

/-- The places where a key may have started. -/
def keyPlaces (s : Layout) : List KeyPlace :=
  s.keyPlace.toList ++ s.brackets.filterMap Prod.snd

/-- How many tokens are settled: those before any place where a key may have started. -/
def settled (s : Layout) : Nat :=
  (s.keyPlaces.map (·.token)).foldl min s.tokens.size

/-- The layout without the key place of the innermost collection, which must not be required. -/
def dropKeyPlace? (s : Layout) : Option Layout :=
  if s.keyPlace.any (·.required) then none else some { s with keyPlace := none }

/-- A key may start here, if keys are allowed. -/
def markKeyPlace? (s : Layout) : Option Layout :=
  if s.keyAllowed then do
    let s ← s.dropKeyPlace?
    let p := s.cursor
    return { s with keyPlace := some ⟨s.tokens.size, !s.inFlow && s.indent == p.column, p.index, p.line, p.column⟩ }
  else some s

/-! ## Block collections -/

/-- The ends of block collections that the columns `outer` are left after, until one is no deeper than `column`. -/
def closeBlocks (s : Layout) (column : Int) : List Int → Layout
  | [] => s
  | above :: outer =>
    if column < s.indent then closeBlocks { s.push .blockEnd with indent := above, outer } column outer else s

/-- The block collections that are deeper than a column come to their end; inside brackets columns have no meaning. -/
def unwind (s : Layout) (column : Int) : Layout :=
  if s.inFlow then s else s.closeBlocks column s.outer

/-- A block collection starts in a column, unless it is there already; `count` tokens come before its start. -/
def openBlock (s : Layout) (column : Nat) (count : Nat) (t : Token) : Layout :=
  if s.indent < column then
    { s with tokens := s.tokens.insertIdxIfInBounds count t, indent := column, outer := s.indent :: s.outer }
  else s

/-- A block collection starts here, unless it is there already; outside of brackets keys must be allowed. -/
def openBlockHere? (s : Layout) (t : Token) : Option Layout :=
  if s.inFlow then some s
  else if s.keyAllowed then some (s.openBlock s.cursor.column s.tokens.size t)
  else none

/-! ## Indicators -/

/-- A directive or a mark between documents, up to where a given text is left to read. -/
def documentToken? (s : Layout) (after : List Char) (t : Token) : Option Layout := do
  let s ← (s.unwind (-1)).dropKeyPlace?
  return { s.takeUpTo after t with keyAllowed := false }

/-- An opening bracket, which may start a key. -/
def openBracket? (s : Layout) (b : Bracket) (t : Token) : Option Layout := do
  let s ← s.markKeyPlace?
  return { s.take 1 t with brackets := (b, s.keyPlace) :: s.brackets, keyPlace := none, keyAllowed := true }

/-- A closing bracket. -/
def closeBracket? (s : Layout) (t : Token) : Option Layout := do
  let s ← s.dropKeyPlace?
  let s := { s.take 1 t with keyAllowed := false }
  return match s.brackets with
    | [] => s
    | (_, keyPlace) :: brackets => { s with brackets, keyPlace }

/-- A comma between the entries of a flow collection. -/
def flowEntry? (s : Layout) : Option Layout := do
  let s ← s.dropKeyPlace?
  return { s.take 1 .flowEntry with keyAllowed := true }

/-- The hyphen of an entry of a block sequence. -/
def blockEntry? (s : Layout) : Option Layout := do
  let s ← (← s.openBlockHere? .blockSequenceStart).dropKeyPlace?
  return { s.take 1 .blockEntry with keyAllowed := true }

/-- The question mark of a key. -/
def key? (s : Layout) : Option Layout := do
  let s ← (← s.openBlockHere? .blockMappingStart).dropKeyPlace?
  return { s.take 1 .key with keyAllowed := !s.inFlow }

/-- The colon of a value. It confirms the key before it, or follows one that was announced. -/
def value? (s : Layout) : Option Layout :=
  match s.keyPlace with
  | some k =>
    let s := { s with tokens := s.tokens.insertIdxIfInBounds k.token .key, keyPlace := none, keyAllowed := false }
    let s := if s.inFlow then s else s.openBlock k.column k.token .blockMappingStart
    some (s.take 1 .value)
  | none => do
    let s ← s.openBlockHere? .blockMappingStart
    return { s.take 1 .value with keyAllowed := !s.inFlow }

/-! ## Content -/

/-- Content that may start a key, up to where a given text is left to read. -/
def content? (s : Layout) (after : List Char) (t : Token) : Option Layout := do
  let s ← s.markKeyPlace?
  return { s.takeUpTo after t with keyAllowed := false }

/-- A plain scalar. After the end of a line keys are allowed again. -/
def plain? (s : Layout) : Option Layout := do
  let s ← s.markKeyPlace?
  let scalar := plain s.version s.inFlow (s.indent + 1) s.cursor
  return { s.push (.scalar (String.ofList scalar.text) true) with cursor := scalar.next, keyAllowed := scalar.breaks }

/-- A block scalar, which is no key. -/
def block? (s : Layout) (folded : Bool) : Option Layout := do
  let s ← s.dropKeyPlace?
  let (text, after) ← Yaml.block? folded s.indent s.cursor.next
  return { s.takeUpTo after (.scalar (String.ofList text) false) with keyAllowed := true }

/-- A quoted scalar between quotation marks. -/
def quoted (s : Layout) (read : List Char → Except Fault (List Char × List Char)) : Except Fault Layout := do
  let (text, after) ← read s.cursor.rest.tail
  orMalformed (s.content? after (.scalar (String.ofList text) false))

/-- A directive, which may tell the version. -/
def directive (s : Layout) : Except Fault Layout := do
  let (d, after) ← Yaml.directive s.version s.cursor.rest.tail
  let s ← orMalformed (s.documentToken? after (.directive d))
  return match d with
    | .version version => { s with version }
    | _ => s

/-! ## Reading -/

/-- The colon at the start of a text is that of a value. In brackets it need not be followed by a blank, unless it could
belong to a word: in a sequence, or after another colon on which a key still hangs. -/
def isValueColon (s : Layout) (hanging : Bool) (cs : List Char) : Bool :=
  startsBlank cs || match s.brackets with
    | [] => false
    | (.sequence, _) :: _ => s.version == .first
    | (.mapping, _) :: _ => s.version == .first || !(hanging && s.tokens.back? == some .value)

/-- The layout after the next token, which starts here; `hanging` tells whether a key may have started before it. -/
def readToken (s : Layout) (hanging : Bool) (c : Char) (cs : List Char) : Except Fault Layout :=
  let text := c :: cs
  let atLineStart := s.cursor.column == 0
  if c = '%' && atLineStart then s.directive
  else if atLineStart && startsDocument text then orMalformed (s.documentToken? (text.drop 3) .documentStart)
  else if atLineStart && endsDocument text then orMalformed (s.documentToken? (text.drop 3) .documentEnd)
  else if c = '[' then orMalformed (s.openBracket? .sequence .flowSequenceStart)
  else if c = '{' then orMalformed (s.openBracket? .mapping .flowMappingStart)
  else if c = ']' then orMalformed (s.closeBracket? .flowSequenceEnd)
  else if c = '}' then orMalformed (s.closeBracket? .flowMappingEnd)
  else if c = ',' then orMalformed s.flowEntry?
  else if c = '-' && startsBlank cs then orMalformed s.blockEntry?
  else if c = '?' && (s.inFlow || startsBlank cs) then orMalformed s.key?
  else if c = ':' && s.isValueColon hanging cs then orMalformed s.value?
  else if c = '*' then orMalformed do
    let (name, after) ← anchorName? cs
    s.content? after (.reference name)
  else if c = '&' then orMalformed do
    let (name, after) ← anchorName? cs
    s.content? after (.anchor name)
  else if c = '!' then orMalformed do
    let (t, after) ← tag? s.version cs
    s.content? after (.tag t)
  else if (c = '|' || c = '>') && !s.inFlow then orMalformed (s.block? (c = '>'))
  else if c = '\'' then s.quoted singleQuoted
  else if c = '"' then s.quoted doubleQuoted
  else if startsPlain s.version s.inFlow text then orMalformed s.plain?
  else .error .malformed

/-- The layout at the start of the next token, or at the end of the text. -/
def advance? (s : Layout) : Option Layout := do
  let (after, breaks) := gap s.inFlow false s.cursor.rest
  let s := { s with cursor := s.cursor.upTo after, keyAllowed := s.keyAllowed || (breaks && !s.inFlow) }
  let s ← s.dropStale?
  return s.unwind s.cursor.column

/-- The layout at the end of the text, where everything that is open comes to its end. -/
def close? (s : Layout) : Option Layout := (s.unwind (-1)).dropKeyPlace?

/-- The settled tokens, and a fault after them. -/
def giveUp (s : Layout) (settled : Nat) (f : Fault) : List Token :=
  s.tokens.toList.take settled ++ [.fault f]

/-- The tokens of the whole text; `settled` of those so far were settled before the last one was read. -/
def finish (s : Layout) (settled : Nat) : List Token :=
  match s.dropStale? with
  | none => s.giveUp settled .malformed
  | some fresh => match fresh.advance? with
    | none => s.giveUp fresh.settled .malformed
    | some t => match t.cursor.rest with
      | [] => match t.close? with
        | none => s.giveUp fresh.settled .malformed
        | some closed => closed.tokens.toList
      | c :: cs => match t.readToken (!fresh.keyPlaces.isEmpty) c cs with
        | .error f => s.giveUp fresh.settled f
        | .ok next =>
          if _h : next.cursor.rest.length < s.cursor.rest.length then next.finish fresh.settled
          else s.giveUp fresh.settled .malformed
termination_by s.cursor.rest.length

end Layout

/-- The tokens of a text; each of its characters must be allowed. -/
def Token.ofChars (cs : List Char) : List Token :=
  bindAliases [] (if cs.all isAllowed then (Layout.start cs).finish 0 else [.fault .malformed])

end GuideSite.Yaml
