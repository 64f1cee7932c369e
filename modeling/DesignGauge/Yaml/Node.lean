import DesignGauge.Yaml.Tag
import DesignGauge.Yaml.Token

/-!
# Nodes of YAML

The tree of a document, read from its tokens by recursive descent. An alias stands for the node
that its anchor marked; the anchors seen so far go along with the tokens that are left. An alias
inside the node that it stands for leads back to it, so a document is a tree with references to
enclosing nodes. Collections are told apart by their places.
-/

namespace DesignGauge.Yaml

/-- A node of a document. The place of a collection is the number of tokens from its start to the
end of the document. -/
inductive Node where
  | scalar (tag : Tag) (text : String)
  | sequence (place : Nat) (tag : Tag) (items : List Node)
  | mapping (place : Nat) (tag : Tag) (entries : List (Node × Node))
  /-- The enclosing collection at a place, once more. -/
  | again (place : Nat)
  deriving Repr

/-- The tokens that are left, the anchors seen so far, and the handles of tags. An anchor whose
node is not finished marks the node by its place. -/
structure Remaining where
  tokens : List Token
  anchors : List (String × Node) := []
  handles : List (String × String) := []

namespace Remaining

/-- The first token. -/
def head? (r : Remaining) : Option Token := r.tokens.head?

/-- Moves past the first token. -/
def next (r : Remaining) : Remaining := { r with tokens := r.tokens.tail }

/-- The first token is one of some, or there is none. -/
def atOneOf (r : Remaining) (ts : List Token) : Bool :=
  match r.head? with
  | some t => ts.contains t
  | none => true

/-- The place that the first token has. -/
def place (r : Remaining) : Nat := r.tokens.length

/-- Notes an anchor. -/
def note (r : Remaining) (anchor : Option String) (node : Node) : Remaining :=
  match anchor with
  | some name => { r with anchors := (name, node) :: r.anchors }
  | none => r

/-- The tag that a handle and the rest of a tag spell. -/
def tagOf (r : Remaining) (handle : Option String) (rest : String) : Except Problem String :=
  match handle with
  | none => .ok rest
  | some h => match r.handles.lookup h with
    | some expansion => .ok (expansion ++ rest)
    | none => malformed "found undefined tag handle"

/-- The anchor and the tag in front of a node, in either order. -/
def properties (r : Remaining) : Except Problem (Option String × Option String × Remaining) := do
  match r.tokens with
  | .anchor name :: .tag handle rest :: _ =>
    return (some name, some (← r.tagOf handle rest), r.next.next)
  | .anchor name :: _ => return (some name, none, r.next)
  | .tag handle rest :: .anchor name :: _ =>
    return (some name, some (← r.tagOf handle rest), r.next.next)
  | .tag handle rest :: _ => return (none, some (← r.tagOf handle rest), r.next)
  | _ => return (none, none, r)

end Remaining

/-- A scalar that is not there. -/
def emptyNode : Node := .scalar (Tag.ofPlain "") ""

/-- The tag of a scalar: that which is named, or that which its text suggests. -/
def scalarTag (named : Option String) (text : String) (plain : Bool) : Tag :=
  match named with
  | none => if plain then Tag.ofPlain text else .text
  | some "!" => Tag.ofPlain text
  | some uri => Tag.ofUri uri

/-- The tag of a collection: that which is named, or its own. -/
def collectionTag (named : Option String) (own : Tag) : Tag :=
  match named with
  | none => own
  | some "!" => own
  | some uri => Tag.ofUri uri

/-- Where a node stands: inside a flow collection, in a block, or where the items of a sequence
may stand without indentation. -/
inductive Place where
  | flow
  | block
  | loose
  deriving DecidableEq, Repr

/-- A node without content: it is empty if it has an anchor or a tag. -/
def bareNode (anchor tag : Option String) (r : Remaining) : Except Problem (Node × Remaining) :=
  if anchor.isSome || tag.isSome then .ok (.scalar (scalarTag tag "" true) "", r)
  else malformed "expected the node content"

mutual
/-- Reads a node. -/
def readNode (place : Place) : Nat → Remaining → Except Problem (Node × Remaining)
  | 0, _ => malformed "nested too deeply"
  | fuel + 1, r =>
    match r.head? with
    | some (.alias name) => match r.anchors.lookup name with
      | some node => .ok (node, r.next)
      | none => malformed "found undefined alias"
    | _ => do
      let (anchor, tag, r) ← r.properties
      if anchor.any fun name => (r.anchors.lookup name).isSome then
        malformed "found duplicate anchor"
      else
        let inner := r.note anchor (.again r.place)
        let (node, after) ← match r.head? with
          | some .blockEntry =>
            if place == .loose then do
              let (items, after) ← readItems [.blockEntry, .key, .value, .blockEnd] fuel inner
              pure (Node.sequence r.place (collectionTag tag .list) items, after)
            else bareNode anchor tag inner
          | some (.scalar text plain) =>
            pure (Node.scalar (scalarTag tag text plain) text, inner.next)
          | some .flowSequenceStart => do
            let (items, after) ← readFlowItems true fuel inner.next
            pure (Node.sequence r.place (collectionTag tag .list) items, after)
          | some .flowMappingStart => do
            let (entries, after) ← readFlowEntries true fuel inner.next
            pure (Node.mapping r.place (collectionTag tag .map) entries, after)
          | some .blockSequenceStart =>
            if place == .flow then bareNode anchor tag inner
            else do
              let (items, after) ← readItems [.blockEntry, .blockEnd] fuel inner.next
              if after.head? == some .blockEnd then
                pure (Node.sequence r.place (collectionTag tag .list) items, after.next)
              else malformed "expected <block end>"
          | some .blockMappingStart =>
            if place == .flow then bareNode anchor tag inner
            else do
              let (entries, after) ← readEntries fuel inner.next
              if after.head? == some .blockEnd then
                pure (Node.mapping r.place (collectionTag tag .map) entries, after.next)
              else malformed "expected <block end>"
          | _ => bareNode anchor tag inner
        return (node, after.note anchor node)

/-- Reads a node, or an empty one if one of some tokens comes first. -/
def readNodeUnless (stops : List Token) (place : Place) :
    Nat → Remaining → Except Problem (Node × Remaining)
  | 0, _ => malformed "nested too deeply"
  | fuel + 1, r =>
    if r.atOneOf stops then .ok (emptyNode, r) else readNode place fuel r

/-- Reads the items of a block sequence, each behind its mark; before some tokens an item is
empty. -/
def readItems (stops : List Token) : Nat → Remaining → Except Problem (List Node × Remaining)
  | 0, _ => malformed "nested too deeply"
  | fuel + 1, r =>
    if r.head? == some .blockEntry then do
      let (item, after) ← readNodeUnless stops .block fuel r.next
      let (items, last) ← readItems stops fuel after
      return (item :: items, last)
    else .ok ([], r)

/-- Reads the entries of a block mapping. -/
def readEntries : Nat → Remaining → Except Problem (List (Node × Node) × Remaining)
  | 0, _ => malformed "nested too deeply"
  | fuel + 1, r =>
    let stops := [.key, .value, .blockEnd]
    match r.head? with
    | some .key => do
      let (key, after) ← readNodeUnless stops .loose fuel r.next
      let (value, after) ←
        if after.head? == some .value then readNodeUnless stops .loose fuel after.next
        else pure (emptyNode, after)
      let (entries, last) ← readEntries fuel after
      return ((key, value) :: entries, last)
    | some .value => malformed "expected <block end>"
    | _ => .ok ([], r)

/-- Reads the items of a flow sequence and its end. A key among them is a mapping of one entry. -/
def readFlowItems (first : Bool) : Nat → Remaining → Except Problem (List Node × Remaining)
  | 0, _ => malformed "nested too deeply"
  | fuel + 1, r =>
    if r.head? == some .flowSequenceEnd then .ok ([], r.next)
    else if !first && r.head? != some .flowEntry then malformed "expected ',' or ']'"
    else do
      let r := if first then r else r.next
      if r.head? == some .flowSequenceEnd then return ([], r.next)
      else
        let (item, after) ←
          if r.head? == some .key then do
            let stops := [.value, .flowEntry, .flowSequenceEnd]
            let (key, after) ← readNodeUnless stops .flow fuel r.next
            let (value, after) ←
              if after.head? == some .value then
                readNodeUnless [.flowEntry, .flowSequenceEnd] .flow fuel after.next
              else pure (emptyNode, after)
            pure (Node.mapping r.place .map [(key, value)], after)
          else readNode .flow fuel r
        let (items, last) ← readFlowItems false fuel after
        return (item :: items, last)

/-- Reads the entries of a flow mapping and its end. A node without a key mark is a key without a
value. -/
def readFlowEntries (first : Bool) :
    Nat → Remaining → Except Problem (List (Node × Node) × Remaining)
  | 0, _ => malformed "nested too deeply"
  | fuel + 1, r =>
    if r.head? == some .flowMappingEnd then .ok ([], r.next)
    else if !first && r.head? != some .flowEntry then malformed "expected ',' or a closing brace"
    else do
      let r := if first then r else r.next
      if r.head? == some .flowMappingEnd then return ([], r.next)
      else
        let (entry, after) ←
          if r.head? == some .key then do
            let stops := [.value, .flowEntry, .flowMappingEnd]
            let (key, after) ← readNodeUnless stops .flow fuel r.next
            let (value, after) ←
              if after.head? == some .value then
                readNodeUnless [.flowEntry, .flowMappingEnd] .flow fuel after.next
              else pure (emptyNode, after)
            pure ((key, value), after)
          else do
            let (key, after) ← readNode .flow fuel r
            pure ((key, emptyNode), after)
        let (entries, last) ← readFlowEntries false fuel after
        return (entry :: entries, last)
end

/-! ## Documents -/

/-- The directives in front of a document: one version, which must be 1, and handles. -/
def readDirectives (r : Remaining) (versioned : Bool) : List Token → Except Problem Remaining
  | .directive (.version major _) :: rest =>
    if versioned then malformed "found duplicate YAML directive"
    else if major != 1 then malformed "found incompatible YAML document"
    else readDirectives r.next true rest
  | .directive (.handle name expansion) :: rest =>
    if (r.handles.lookup name).isSome then malformed "duplicate tag handle"
    else readDirectives { r.next with handles := (name, expansion) :: r.handles } versioned rest
  | .directive .other :: rest => readDirectives r.next versioned rest
  | _ => .ok r

/-- The handles that every document has. -/
def commonHandles : List (String × String) := [("!", "!"), ("!!", "tag:yaml.org,2002:")]

/-- The content of a document; an empty one stands for nothing. -/
def readContent (r : Remaining) : Except Problem (Node × Remaining) :=
  match r.head? with
  | none | some .documentStart | some .documentEnd | some (.directive _) => .ok (emptyNode, r)
  | _ => readNode .block (2 * r.tokens.length + 2) r

/-- A document: its root, the nodes that anchors marked, and a bound on the collections in it. -/
structure Document where
  root : Node
  marked : List Node
  size : Nat

/-- The only document of a stream, if it has one. -/
def readDocument (tokens : List Token) : Except Problem (Option Document) := do
  let r : Remaining := { tokens }
  match r.head? with
  | none => return none
  | some t =>
    let (node, after) ← match t with
      | .directive _ | .documentStart => do
        let r ← readDirectives r false tokens
        let r := { r with handles := r.handles ++ commonHandles }
        if r.head? == some .documentStart then readContent r.next
        else malformed "expected '<document start>'"
      | _ => readNode .block (2 * tokens.length + 2) { r with handles := commonHandles }
    if (after.tokens.dropWhile (· == .documentEnd)).isEmpty then
      return some ⟨node, after.anchors.map Prod.snd, tokens.length⟩
    else malformed "expected a single document in the stream"

end DesignGauge.Yaml
