import Assay.Yaml.Error
import Assay.Yaml.Node

/-!
# Entries from other mappings

The value of a merge key `<<` is a mapping, or a sequence of mappings, whose entries its own mapping
takes over. They go before the entries that it has, and those of later mappings in a sequence before
those of earlier ones; since the last of several entries with one key counts, a mapping's own entries
win. Merging takes the merge keys out of the graph, so each is looked at once, even where a mapping
is merged into itself. In the end the key `=` becomes an ordinary text.

## Termination

Before a mapping is merged into another one, the merge key that says so is taken out. Entries that are
taken over hold no merge keys any more, so the merge keys of a graph only become fewer, and `mergeInto`
counts them down.
-/

namespace Assay.Yaml.Graph

/-- The entries of a mapping. -/
def entriesOf (g : Graph) (id : NodeId) : List (NodeId × NodeId) := (g.entries? id).getD []

/-- Whether an entry has a merge key. -/
def isMerge (g : Graph) (entry : NodeId × NodeId) : Bool := g.tag entry.1 == .merge

/-- Whether an entry has the key `=`. -/
def isStandIn (g : Graph) (entry : NodeId × NodeId) : Bool := g.tag entry.1 == .standIn

/-- The number of merge keys of a mapping. -/
def mergesOf (g : Graph) (id : NodeId) : Nat := (g.entriesOf id).countP g.isMerge

/-- The number of merge keys of all mappings. -/
def merges (g : Graph) : Nat := ((List.range g.size).flatMap g.entriesOf).countP g.isMerge

/-- Whether merging changes a mapping at all. -/
def needsMerge (g : Graph) (id : NodeId) : Bool :=
  (g.entriesOf id).any fun entry => g.isMerge entry || g.isStandIn entry

/-- The graph in which the keys `=` of some entries are texts. -/
def settle (entries : List (NodeId × NodeId)) (g : Graph) : Graph :=
  entries.foldl (fun g entry => if g.isStandIn entry then g.retag entry.1 .text else g) g

/-- The mappings whose entries are taken over from the value of a merge key. -/
def sources? (g : Graph) (value : NodeId) : Option (List NodeId) :=
  match (g.get value).content with
  | .mapping _ => some [value]
  | .sequence items => if items.all fun item => (g.entries? item).isSome then some items else none
  | .scalar _ => none

/-- Merges each of some mappings, and gives the entries that they then have, the later ones first. -/
def mergeEach (mergeOne : NodeId → Graph → Except Error Graph) :
    List NodeId → Graph → Except Error (List (NodeId × NodeId) × Graph)
  | [], g => .ok ([], g)
  | id :: rest, g => do
    let g ← mergeOne id g
    let entries := g.entriesOf id
    let (later, g) ← mergeEach mergeOne rest g
    return (later ++ entries, g)

/-- Follows the merge keys of a mapping, one after the other; `taken` has come from others so far. The
number counts the merge keys of the graph down. -/
def mergeInto (merges : Nat) (id : NodeId) (taken : List (NodeId × NodeId)) (g : Graph) :
    Except Error Graph :=
  let entries := g.entriesOf id
  match merges, entries.findIdx? g.isMerge with
  | _, none => .ok ((g.settle entries).fill id (.mapping (taken ++ entries)))
  | 0, some _ => .error .tooDeep
  | merges + 1, some index =>
    match entries[index]?.bind fun entry => g.sources? entry.2 with
    | none => .error .merge
    | some sources => do
      let g := g.fill id (.mapping (entries.eraseIdx index))
      let (part, g) ← mergeEach (fun source g => mergeInto merges source [] g) sources g
      mergeInto merges id (taken ++ part) g

/-- The graph with the entries that a mapping takes over from others put into it. -/
def merge (id : NodeId) (g : Graph) : Except Error Graph :=
  if g.needsMerge id then mergeInto g.merges id [] g else .ok g

end Assay.Yaml.Graph
