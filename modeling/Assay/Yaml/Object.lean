import Assay.Yaml.Datum
import Assay.Yaml.Merge

/-!
# Objects

What the nodes of a document stand for. A scalar stands for a value. A collection stands for an
object, which is the same one wherever an alias stands for the node, so objects can be parts of
themselves. An object is there, still empty, as soon as its node is met, and is filled when its turn
comes: in the order in which the nodes are met, and so level by level. The first error on this way is
that of the document.

## Termination

A node is met once, so there are at most as many objects to be filled as there are nodes.
-/

namespace Assay.Yaml

/-- What a node stands for. -/
inductive Item where
  /-- A scalar, and its node if a scalar of another node is never the same key. -/
  | scalar (v : Value) (origin : Option NodeId)
  | object (index : Nat)
  deriving Inhabited

/-- A collection. -/
inductive Object where
  | list (items : List Item)
  | pair (key value : Item)
  | map (entries : List (Item × Item))
  | set (items : List Item)
  deriving Inhabited

/-! ## Keys -/

namespace Item

/-- Whether a value is a number that equals none. -/
def isNan : Value → Bool
  | .real .nan => true
  | _ => false

/-- Whether two scalars are the same key. What equals nothing is the same only as itself. -/
def isSameKey : Item → Item → Bool
  | .scalar a o, .scalar b p => if isNan a && isNan b then o == p else a.sameKey b
  | _, _ => false

/-- The entries with a key set to an item: in its place if it is there, else at the end. -/
def insertEntry (entries : List (Item × Item)) (key value : Item) : List (Item × Item) :=
  match entries with
  | [] => [(key, value)]
  | (k, v) :: rest =>
    if k.isSameKey key then (k, value) :: rest else (k, v) :: insertEntry rest key value

end Item

/-! ## Scalars -/

/-- The text of a node that counts as a scalar: in a mapping the value of the key `=` stands in. A
node of which that is true for ever has none; `steps` counts down from the number of nodes. -/
def Graph.textOf (steps : Nat) (id : NodeId) (g : Graph) : Except Error CodeText :=
  match steps, (g.get id).content with
  | 0, _ => .error .tooDeep
  | _ + 1, .scalar t => .ok t
  | _ + 1, .sequence _ => .error .wrongKind
  | steps + 1, .mapping entries =>
    match entries.find? fun entry => g.tag entry.1 == .standIn with
    | some (_, v) => g.textOf steps v
    | none => .error .wrongKind

/-- The type of a scalar, or the error if the tag names no type. -/
def Tag.checkKnown : Tag → Except Error Unit
  | .merge => .error (.unknownTag (Tag.beginning ++ "merge".toList))
  | .standIn => .error (.unknownTag (Tag.beginning ++ "value".toList))
  | .other name => .error (.unknownTag name)
  | _ => .ok ()

/-- The scalar that a node stands for. A time must be written as a scalar. -/
def Graph.scalarOf (id : NodeId) (g : Graph) : Except Error Item := do
  let n := g.get id
  n.tag.checkKnown
  let t ← g.textOf (g.size + 1) id
  if n.tag = .time && (g.entries? id).isSome then throw .notText
  let v ← scalarData n.tag t
  return .scalar v (if Item.isNan v && !isNamedNan t then some id else none)

/-! ## Making objects -/

/-- The objects while they are made. -/
structure Making where
  graph : Graph
  /-- What each node stands for, once it has been met. -/
  items : Array (Option Item)
  objects : Array Object
  /-- The nodes whose objects are to be filled, in their order. -/
  tasks : Array (NodeId × Nat)

/-- Making objects, with the first error. -/
abbrev Maker := StateT Making (Except Error)

namespace Maker

/-- A new object. -/
def newObject (o : Object) : Maker Nat :=
  modifyGet fun m => (m.objects.size, { m with objects := m.objects.push o })

/-- The object that is there before a collection with a tag is filled. -/
def emptyObject? : Tag → Option Object
  | .list | .pairs => some (.list [])
  | .map => some (.map [])
  | .set => some (.set [])
  | _ => none

/-- What a node stands for that is met for the first time. -/
def newItem (id : NodeId) : Maker Item := do
  match emptyObject? ((← get).graph.tag id) with
  | none => (← get).graph.scalarOf id
  | some o =>
    let index ← newObject o
    modify fun m => { m with tasks := m.tasks.push (id, index) }
    return .object index

/-- What a node stands for. -/
def item (id : NodeId) : Maker Item := do
  match (← get).items.getD id none with
  | some i => return i
  | none =>
    let i ← newItem id
    modify fun m => { m with items := m.items.setIfInBounds id (some i) }
    return i

/-- What the key of an entry stands for; no collection is a key. -/
def key (id : NodeId) : Maker Item := do
  match ← item id with
  | .object _ => throw .collectionAsKey
  | i => return i

/-- The entries of a mapping, its merge keys followed. -/
def entries (id : NodeId) : Maker (List (Item × Item)) := do
  match (← get).graph.entries? id with
  | none => throw .wrongKind
  | some _ =>
    let graph ← (← get).graph.merge id
    modify fun m => { m with graph := graph }
    let written ← (graph.entriesOf id).mapM fun (k, v) => do
      let k ← key k
      return (k, ← item v)
    return written.foldl (fun entries (k, v) => Item.insertEntry entries k v) []

/-- The pair of a mapping with one entry. -/
def pair (id : NodeId) : Maker Item := do
  match (← get).graph.entries? id with
  | some [(k, v)] =>
    let k ← item k
    let v ← item v
    return .object (← newObject (.pair k v))
  | _ => throw .wrongKind

/-- The items of a sequence, each made in one way. -/
def items (id : NodeId) (make : NodeId → Maker Item) : Maker (List Item) := do
  match ((← get).graph.get id).content with
  | .sequence ids => ids.mapM make
  | _ => throw .wrongKind

/-- What the object of a collection holds. -/
def filled (id : NodeId) : Maker Object := do
  match (← get).graph.tag id with
  | .list => return .list (← items id item)
  | .pairs => return .list (← items id pair)
  | .set => return .set ((← entries id).map Prod.fst)
  | _ => return .map (← entries id)

/-- Fills the objects from the one with a number on. -/
def fillFrom (count next : Nat) : Maker Unit :=
  match count with
  | 0 => return ()
  | count + 1 => do
    match (← get).tasks[next]? with
    | none => return ()
    | some (id, index) =>
      let o ← filled id
      modify fun m => { m with objects := m.objects.setIfInBounds index o }
      fillFrom count (next + 1)

end Maker

/-- What a node stands for, with all objects. -/
def Graph.objectsFrom (root : NodeId) (g : Graph) : Except Error (Item × Array Object) := do
  let start : Making := ⟨g, Array.replicate g.size none, #[], #[]⟩
  let make : Maker Item := do
    let i ← Maker.item root
    Maker.fillFrom (g.size + 1) 0
    return i
  let (i, m) ← make.run start
  return (i, m.objects)

end Assay.Yaml
