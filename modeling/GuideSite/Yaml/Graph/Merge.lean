import GuideSite.Yaml.Graph.Basic

/-!
# Entries taken over

The key `<<` of a mapping takes over the entries of another mapping, or of several in a sequence, the last one first.
They come before the entries of the mapping's own, and the key itself is gone; a second such key is a fault once
entries have been taken over. The key `=` becomes text on the way.

* `Graph.takeOver`: the graph in which a mapping has all its entries.
-/

namespace GuideSite.Yaml.Graph

/-- The number of entries of all mappings. -/
def entryCount (g : Graph) : Nat :=
  (g.toList.map fun x => match x.content with
    | .mapping entries => entries.length
    | _ => 0).foldl (· + ·) 0

/-- The graph in which the key of a value by itself is text, if the vertex is that key. -/
def plainKey (g : Graph) (v : Nat) : Graph :=
  if g.kind v = .self then g.modify v fun x => { x with kind := .text } else g

/-- The graph in which a mapping has entries taken over, before its own. -/
def withTaken (g : Graph) (v : Nat) (taken : List (Nat × Nat)) : Graph :=
  match taken, g.entries? v with
  | _ :: _, some own => g.modify v fun x => { x with content := .mapping (taken ++ own), taken }
  | _, _ => g

/-- The graph after the entries from the number `start` on have been looked at; `taken` are the entries taken over so
far, and at most `keys` keys are left that take over entries. -/
def takeOverFrom : (keys : Nat) → (g : Graph) → (v start : Nat) → (taken : List (Nat × Nat)) → Except Fault Graph
  | 0, _, _, _, _ => .error .endless
  | keys + 1, g, v, start, taken =>
    let entries := (g.entries? v).getD []
    let before := (entries.drop start).takeWhile fun e => g.kind e.1 != .merge
    let place := start + before.length
    let g := before.foldl (fun g e => g.plainKey e.1) g
    match entries[place]? with
    | none => .ok (g.withTaken v taken)
    | some (_, source) => do
      if taken ≠ [] then throw .malformed
      else
        let g := g.setContent v (.mapping (entries.eraseIdx place))
        let (g, taken) ← match g.entries? source, g.items? source with
          | some _, _ => do
            let g ← takeOverFrom keys g source 0 []
            pure (g, (g.entries? source).getD [])
          | none, some items => items.foldlM (fun (g, found) item => do
              if (g.entries? item).isNone then throw Fault.malformed
              else
                let g ← takeOverFrom keys g item 0 []
                return (g, (g.entries? item).getD [] ++ found)) (g, [])
          | none, none => throw .malformed
        takeOverFrom keys g v place taken

/-- The graph in which a mapping has all its entries. Each key that takes over entries is met once at most. -/
def takeOver (g : Graph) (v : Nat) : Except Fault Graph :=
  takeOverFrom (g.entryCount + 1) g v 0 []

end GuideSite.Yaml.Graph
