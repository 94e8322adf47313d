import Assay.Yaml.Node
import Assay.Yaml.Token

/-!
# Graphs from tokens

The tokens of a document are read as a graph of nodes: `readNode` reads one node and all that is in
it. A collection gets its id, and its anchor that id, before its parts are read, so an alias inside
it can stand for the collection itself. Where the tokens are broken off, the error that broke them
off is what comes of it, unless something before that is wrong already.

## Termination

Whatever reads tokens says how many it takes at least: `Read α ts taken` comes with what is left of
`ts`, and a proof that it is shorter by `taken`.
-/

namespace Assay.Yaml

/-! ## Surroundings of a node -/

/-- What the handles of tags stand for. -/
abbrev Handles := List (Text × Text)

/-- The handles that every document knows. -/
def Handles.standard : Handles := [(['!'], ['!']), (['!', '!'], Tag.beginning)]

/-- How deep nodes can be in one another. -/
def greatestDepth : Nat := 488

/-- The nodes that have been read, and those with anchors. -/
structure Draft where
  graph : Graph
  anchors : List (Text × NodeId)

namespace Draft

/-- Nothing has been read. -/
def blank : Draft := ⟨.empty, []⟩

/-- The draft with a new node, to be known by an anchor if there is one. -/
def add (anchor : Option Text) (n : Node) (d : Draft) : Draft :=
  let id := d.graph.size
  let anchors := match anchor with
    | some a => (a, id) :: d.anchors
    | none => d.anchors
  ⟨d.graph.add n, anchors⟩

/-- The draft with a sequence whose items are still to be read. -/
def openList (anchor : Option Text) (tag : Option Tag) (d : Draft) : Draft :=
  d.add anchor ⟨tag.getD .list, .sequence []⟩

/-- The draft with a mapping whose entries are still to be read. -/
def openMap (anchor : Option Text) (tag : Option Tag) (d : Draft) : Draft :=
  d.add anchor ⟨tag.getD .map, .mapping []⟩

/-- The draft with the parts of a node filled in. -/
def fill (id : NodeId) (content : Content) (d : Draft) : Draft :=
  { d with graph := d.graph.fill id content }

/-- The node of an alias. -/
def find (name : Text) (d : Draft) : Except Error NodeId :=
  match d.anchors.lookup name with
  | some id => .ok id
  | none => .error (.unknownAlias name)

/-- Refuses an anchor that is in use. -/
def checkAnchor (anchor : Option Text) (d : Draft) : Except Error Unit :=
  match anchor with
  | none => .ok ()
  | some a => if (d.anchors.lookup a).isSome then .error (.repeatedAnchor a) else .ok ()

end Draft

/-- The anchor and the tag in front of a node. -/
structure Properties where
  anchor : Option Text
  tag : Option (Option Text × Text)

namespace Properties

/-- The properties at the front of the tokens, in either order, and what follows them. -/
def take (ts : List Token) : Properties × { r : List Token // r.length ≤ ts.length } :=
  match ts with
  | .anchor a :: .tag h rest :: more => (⟨some a, some (h, rest)⟩, ⟨more, by simp; omega⟩)
  | .tag h rest :: .anchor a :: more => (⟨some a, some (h, rest)⟩, ⟨more, by simp; omega⟩)
  | .anchor a :: more => (⟨some a, none⟩, ⟨more, by simp⟩)
  | .tag h rest :: more => (⟨none, some (h, rest)⟩, ⟨more, by simp⟩)
  | ts => (⟨none, none⟩, ⟨ts, by simp⟩)

/-- Whether both properties are there. -/
def areBoth (p : Properties) : Bool := p.anchor.isSome && p.tag.isSome

/-- The full name of the tag. -/
def tagName? (handles : Handles) (p : Properties) : Except Error (Option Text) :=
  match p.tag with
  | none => .ok none
  | some (none, rest) => .ok (some rest)
  | some (some h, rest) =>
    match handles.lookup h with
    | some beginning => .ok (some (beginning ++ rest))
    | none => .error .unknownHandle

end Properties

/-- The tag with a full name, where a lone exclamation mark counts as none. -/
def Tag.given? : Option Text → Option Tag
  | none => none
  | some ['!'] => none
  | some name => some (.ofName name)

/-! ## Broken tokens -/

/-- The error where tokens are refused: if they are broken off there, why. -/
def Error.orBreak (ts : List Token) (e : Error) : Error :=
  match ts with
  | .broken reason :: _ => reason
  | _ => e

/-- Looks at the next token. -/
def checkBreak (ts : List Token) : Except Error Unit :=
  match ts with
  | .broken reason :: _ => .error reason
  | _ => .ok ()

/-! ## Nodes from tokens -/

/-- Where a node stands. -/
inductive Position where
  | inBrackets
  | inBlock
  /-- As a key or a value of a block mapping, where the items of a sequence need no indentation. -/
  | inMapping
  deriving DecidableEq, Repr

/-- Whether a token starts a node, its properties left aside. -/
def Position.admits (position : Position) : Option Token → Bool
  | some (.scalar ..) | some .flowSequenceStart | some .flowMappingStart => true
  | some .blockSequenceStart | some .blockMappingStart => position ≠ .inBrackets
  | some .item => position = .inMapping
  | _ => false

/-- Whether the item of a sequence is left out before a token. -/
def leavesOutItem : Option Token → Bool
  | some .item | some .blockEnd => true
  | _ => false

/-- Whether a key or a value of a block mapping is left out before a token. -/
def leavesOutInMapping : Option Token → Bool
  | some .key | some .value | some .blockEnd => true
  | _ => false

/-- Whether an item of a sequence without indentation is left out before a token. -/
def leavesOutFlushItem (t : Option Token) : Bool := leavesOutItem t || leavesOutInMapping t

/-- Whether a value in brackets is left out before a token. -/
def leavesOutInBrackets : Option Token → Bool
  | some .separator | some .flowSequenceEnd | some .flowMappingEnd => true
  | _ => false

/-- Whether a key in brackets is left out before a token. -/
def leavesOutKeyInBrackets (t : Option Token) : Bool := t == some .value || leavesOutInBrackets t

/-- What a node is read under: the handles of its document, and how much deeper nodes can be. -/
structure Scope where
  handles : Handles
  room : Nat

/-- The scope of the parts of a collection. -/
def Scope.inner (scope : Scope) : Except Error Scope :=
  match scope.room with
  | 0 => .error .tooDeep
  | room + 1 => .ok { scope with room := room }

/-- Something read from the front of the tokens `ts`, the draft after it, and what follows it: at
least `taken` tokens less. -/
structure Read (α : Type) (ts : List Token) (taken : Nat) where
  value : α
  draft : Draft
  rest : List Token
  bounded : rest.length + taken ≤ ts.length

/-- The tokens of the next part of a collection in brackets: a comma parts it from the one before.
-/
def nextPart (isFirst : Bool) (ts : List Token) :
    Except Error { r : List Token // r.length ≤ ts.length } :=
  if isFirst then .ok ⟨ts, Nat.le_refl _⟩
  else match ts with
    | .separator :: more => .ok ⟨more, by simp⟩
    | ts => .error (Error.missingSeparator.orBreak ts)

/-- The id of the next node that is read under a draft. -/
def Draft.nextId (d : Draft) : NodeId := d.graph.size

/-- The node of what is left out. -/
def Draft.leaveOut (d : Draft) : NodeId × Draft := (d.nextId, d.add none Node.empty)

mutual

/-- The node at the front of the tokens. -/
def readNode (scope : Scope) (position : Position) (d : Draft) (ts : List Token) :
    Except Error (Read NodeId ts 1) :=
  match ts with
  | .alias name :: rest => do return ⟨← d.find name, d, rest, by simp⟩
  | ts => do
    let ⟨properties, inner, hle⟩ := Properties.take ts
    -- The tag is looked up as soon as it is clear that no other property follows.
    if !properties.areBoth then checkBreak inner
    let name ← properties.tagName? scope.handles
    checkBreak inner
    if position.admits inner.head? then
      d.checkAnchor properties.anchor
      let r ← readContent scope name properties.anchor d inner
      return ⟨r.value, r.draft, r.rest, by
        have := r.bounded
        omega⟩
    else if h : inner.length < ts.length then
      d.checkAnchor properties.anchor
      let n := ⟨(Tag.given? name).getD .null, .scalar []⟩
      return ⟨d.nextId, d.add properties.anchor n, inner, by omega⟩
    else throw .noNode
termination_by 5 * ts.length + 2

/-- The node at the front of the tokens, its properties left behind. -/
def readContent (scope : Scope) (name : Option Text) (anchor : Option Text) (d : Draft)
    (ts : List Token) : Except Error (Read NodeId ts 1) :=
  let tag := Tag.given? name
  let id := d.nextId
  match ts with
  | .scalar isPlain text :: more =>
    let isImplied := isPlain && name.isNone || name == some ['!']
    let implied := if isImplied then Tag.ofPlain text.shown else .text
    .ok ⟨id, d.add anchor ⟨tag.getD implied, .scalar text⟩, more, by simp⟩
  | .flowSequenceStart :: more => do
    let r ← readFlowSequence (← scope.inner) true (d.openList anchor tag) more
    return ⟨id, r.draft.fill id (.sequence r.value), r.rest, by
      have := r.bounded
      simp
      omega⟩
  | .flowMappingStart :: more => do
    let r ← readFlowMapping (← scope.inner) true (d.openMap anchor tag) more
    return ⟨id, r.draft.fill id (.mapping r.value), r.rest, by
      have := r.bounded
      simp
      omega⟩
  | .blockSequenceStart :: more => do
    let r ← readBlockSequence (← scope.inner) (d.openList anchor tag) more
    return ⟨id, r.draft.fill id (.sequence r.value), r.rest, by
      have := r.bounded
      simp
      omega⟩
  | .blockMappingStart :: more => do
    let r ← readBlockMapping (← scope.inner) (d.openMap anchor tag) more
    return ⟨id, r.draft.fill id (.mapping r.value), r.rest, by
      have := r.bounded
      simp
      omega⟩
  | .item :: more => do
    let r ← readFlushItems (← scope.inner) (d.openList anchor tag) more
    return ⟨id, r.draft.fill id (.sequence r.value), r.rest, by
      have := r.bounded
      simp
      omega⟩
  | _ => .error .noNode
termination_by 5 * ts.length + 1

/-- The node at the front of the tokens, or the empty node where it is left out. -/
def readOptional (scope : Scope) (position : Position) (isLeftOut : Option Token → Bool)
    (d : Draft) (ts : List Token) : Except Error (Read NodeId ts 0) :=
  if isLeftOut ts.head? then .ok ⟨d.leaveOut.1, d.leaveOut.2, ts, Nat.le_refl _⟩
  else do
    let r ← readNode scope position d ts
    return ⟨r.value, r.draft, r.rest, by
      have := r.bounded
      omega⟩
termination_by 5 * ts.length + 3

/-- The value after the key of a mapping; without a colon it is left out. -/
def readValue (scope : Scope) (position : Position) (isLeftOut : Option Token → Bool)
    (d : Draft) (ts : List Token) : Except Error (Read NodeId ts 0) :=
  match ts with
  | .value :: more => do
    let r ← readOptional scope position isLeftOut d more
    return ⟨r.value, r.draft, r.rest, by
      have := r.bounded
      simp
      omega⟩
  | ts => .ok ⟨d.leaveOut.1, d.leaveOut.2, ts, Nat.le_refl _⟩
termination_by 5 * ts.length + 3

/-- The items of a sequence without indentation, its first hyphen left behind. -/
def readFlushItems (scope : Scope) (d : Draft) (ts : List Token) :
    Except Error (Read (List NodeId) ts 0) := do
  let ⟨n, d, rest, hle⟩ ← readOptional scope .inBlock leavesOutFlushItem d ts
  match rest, hle with
  | .item :: more, hle =>
    have hlt : more.length + 1 ≤ ts.length := hle
    let r ← readFlushItems scope d more
    return ⟨n :: r.value, r.draft, r.rest, by
      have := r.bounded
      omega⟩
  | rest, hle => return ⟨[n], d, rest, hle⟩
termination_by 5 * ts.length + 4

/-- The items of a block sequence up to its end. -/
def readBlockSequence (scope : Scope) (d : Draft) (ts : List Token) :
    Except Error (Read (List NodeId) ts 1) :=
  match ts with
  | .item :: more => do
    let ⟨n, d, rest, hle⟩ ← readOptional scope .inBlock leavesOutItem d more
    let r ← readBlockSequence scope d rest
    return ⟨n :: r.value, r.draft, r.rest, by
      have := r.bounded
      simp
      omega⟩
  | .blockEnd :: more => .ok ⟨[], d, more, by simp⟩
  | ts => .error (Error.unclosedCollection.orBreak ts)
termination_by 5 * ts.length + 4

/-- The entries of a block mapping up to its end. -/
def readBlockMapping (scope : Scope) (d : Draft) (ts : List Token) :
    Except Error (Read (List (NodeId × NodeId)) ts 1) :=
  match ts with
  | .key :: more => do
    let ⟨k, d, rest, hk⟩ ← readOptional scope .inMapping leavesOutInMapping d more
    let ⟨v, d, rest, hv⟩ ← readValue scope .inMapping leavesOutInMapping d rest
    let r ← readBlockMapping scope d rest
    return ⟨(k, v) :: r.value, r.draft, r.rest, by
      have := r.bounded
      simp
      omega⟩
  | .blockEnd :: more => .ok ⟨[], d, more, by simp⟩
  | ts => .error (Error.unclosedCollection.orBreak ts)
termination_by 5 * ts.length + 4

/-- The parts of a sequence in brackets up to its end. A part may be a single entry, which stands
for a mapping of its own. -/
def readFlowSequence (scope : Scope) (isFirst : Bool) (d : Draft) (ts : List Token) :
    Except Error (Read (List NodeId) ts 1) :=
  match ts with
  | .flowSequenceEnd :: more => .ok ⟨[], d, more, by simp⟩
  | ts => do
    let ⟨part, hle⟩ ← nextPart isFirst ts
    match part, hle with
    | .flowSequenceEnd :: more, hle => return ⟨[], d, more, hle⟩
    | .key :: more, hle =>
      have hlt : more.length + 1 ≤ ts.length := hle
      let inner ← scope.inner
      let id := d.nextId
      let ⟨k, d, rest, hk⟩ ←
        readOptional inner .inBrackets leavesOutKeyInBrackets (d.openMap none none) more
      let ⟨v, d, rest, hv⟩ ← readValue inner .inBrackets leavesOutInBrackets d rest
      let r ← readFlowSequence scope false (d.fill id (.mapping [(k, v)])) rest
      return ⟨id :: r.value, r.draft, r.rest, by
        have := r.bounded
        omega⟩
    | part, hle =>
      let ⟨n, d, rest, hn⟩ ← readNode scope .inBrackets d part
      let r ← readFlowSequence scope false d rest
      return ⟨n :: r.value, r.draft, r.rest, by
        have := r.bounded
        omega⟩
termination_by 5 * ts.length + 4

/-- The entries of a mapping in brackets up to its end. A node without a mark is a key without a
value. -/
def readFlowMapping (scope : Scope) (isFirst : Bool) (d : Draft) (ts : List Token) :
    Except Error (Read (List (NodeId × NodeId)) ts 1) :=
  match ts with
  | .flowMappingEnd :: more => .ok ⟨[], d, more, by simp⟩
  | ts => do
    let ⟨part, hle⟩ ← nextPart isFirst ts
    match part, hle with
    | .flowMappingEnd :: more, hle => return ⟨[], d, more, hle⟩
    | .key :: more, hle =>
      have hlt : more.length + 1 ≤ ts.length := hle
      let ⟨k, d, rest, hk⟩ ←
        readOptional scope .inBrackets leavesOutKeyInBrackets d more
      let ⟨v, d, rest, hv⟩ ← readValue scope .inBrackets leavesOutInBrackets d rest
      let r ← readFlowMapping scope false d rest
      return ⟨(k, v) :: r.value, r.draft, r.rest, by
        have := r.bounded
        omega⟩
    | part, hle =>
      let ⟨n, d, rest, hn⟩ ← readNode scope .inBrackets d part
      let (v, d) := d.leaveOut
      let r ← readFlowMapping scope false d rest
      return ⟨(n, v) :: r.value, r.draft, r.rest, by
        have := r.bounded
        omega⟩
termination_by 5 * ts.length + 4

end

end Assay.Yaml
