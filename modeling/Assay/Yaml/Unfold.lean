import Assay.Yaml.Object

/-!
# Values of objects

An object becomes a value by taking it apart. One that can be reached from itself would never come
to an end; where it comes up again inside itself an elision stands for it. Each part at
`elidingDepth` is taken apart on its own, so that a collection is elided inside such a part only if
it has come up within that part.

Objects from which no such object can be reached are taken apart once, however often they come up.

## Termination

The objects that are open are all different, so taking apart goes at most as deep as there are
objects, and a little deeper.
-/

namespace Assay.Yaml

namespace Object

/-- The elision of an object. -/
def elided : Object → Value
  | .list _ => .elided .list
  | .pair .. => .elided .tuple
  | .map _ => .elided .map
  | .set items => .set (items.map fun i => match i with
    | .scalar v _ => v
    | .object _ => .null)

/-- The value of an object whose parts have some values. -/
def value (part : Item → Value) : Object → Value
  | .list items => .list (items.map part)
  | .pair k v => .tuple [part k, part v]
  | .map entries => .map (entries.map fun (k, v) => (part k, part v))
  | .set items => .set (items.map part)

/-- The parts of an object. -/
def parts : Object → List Item
  | .list items | .set items => items
  | .pair k v => [k, v]
  | .map entries => entries.flatMap fun (k, v) => [k, v]

end Object

/-! ## Objects that come to an end -/

/-- The values of objects, as far as they are known. -/
abbrev KnownValues := Array (Option Value)

/-- The value of an item, if it is known. -/
def KnownValues.ofItem? (known : KnownValues) : Item → Option Value
  | .scalar v _ => some v
  | .object index => known.getD index none

/-- The values with that of an object, if those of its parts are known. -/
def KnownValues.learn (objects : Array Object) (known : KnownValues) (index : Nat) :
    KnownValues :=
  match known.getD index none, objects[index]? with
  | none, some o =>
    if o.parts.all fun part => (known.ofItem? part).isSome then
      known.setIfInBounds index (some (o.value fun part => (known.ofItem? part).getD .null))
    else known
  | _, _ => known

/-- The values of all objects that come to an end: what is known is learned over and over, the
objects made last first, until nothing new comes up. -/
def learnAll (objects : Array Object) (rounds : Nat) (known : KnownValues) : KnownValues :=
  match rounds with
  | 0 => known
  | rounds + 1 =>
    let next := (List.range objects.size).reverse.foldl (KnownValues.learn objects) known
    if next.countP Option.isSome = known.countP Option.isSome then next
    else learnAll objects rounds next

/-! ## All objects -/

/-- The depth from which on elisions are made: that of the items of the settings of a document. -/
def elidingDepth : Nat := 2

/-- The value of an item at a depth, inside some open objects. -/
def unfold (objects : Array Object) (known : KnownValues) (steps depth : Nat) (opened : List Nat) :
    Item → Value
  | .scalar v _ => v
  | .object index =>
    match steps, known.getD index none, objects[index]? with
    | _, some v, _ => v
    | 0, none, some o => o.elided
    | _, none, none => .null
    | steps + 1, none, some o =>
      if opened.contains index then o.elided
      else
        let opened := if elidingDepth ≤ depth then index :: opened else opened
        o.value (unfold objects known steps (depth + 1) opened)

/-- The value of an item with all that is in it. -/
def Item.value (objects : Array Object) (i : Item) : Value :=
  let known := learnAll objects objects.size (Array.replicate objects.size none)
  unfold objects known (objects.size + elidingDepth + 1) 0 [] i

end Assay.Yaml
