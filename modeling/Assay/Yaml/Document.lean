import Assay.Yaml.Draft
import Assay.Yaml.Layout
import Assay.Yaml.Unfold

/-!
# YAML documents

A text holds at most one document: directives and a mark of its start, both of which may be
missing, a node, and marks of its end. `read` gives the plain data of the node, and null where there
is none.
-/

namespace Assay.Yaml

/-- The version that is known, by its major number. -/
def majorVersion : Nat := 1

/-- The handles that the directives at the front of the tokens declare, and what follows them. -/
def readDirectives (hasVersion : Bool) (declared : Handles) :
    List Token → Except Error (Handles × List Token)
  | .directive (.version major _) :: more =>
    if hasVersion then .error .repeatedDirective
    else if major ≠ majorVersion then .error .version
    else readDirectives true declared more
  | .directive (.handle name beginning) :: more =>
    if (declared.lookup name).isSome then .error .repeatedDirective
    else readDirectives hasVersion ((name, beginning) :: declared) more
  | .directive (.other _) :: more => readDirectives hasVersion declared more
  | ts => .ok (declared ++ Handles.standard, ts)

/-- Whether a document without a node ends before a token. -/
def leavesOutDocument : Option Token → Bool
  | none | some (.directive _) | some .documentStart | some .documentEnd => true
  | _ => false

/-- The graph of the document at the front of the tokens, its root and what follows it. -/
def readDocument (ts : List Token) : Except Error (NodeId × Graph × List Token) := do
  match ts.head? with
  | some (.directive _) | some .documentStart =>
    match ← readDirectives false [] ts with
    | (handles, .documentStart :: more) =>
      let r ← readOptional ⟨handles, greatestDepth⟩ .inBlock leavesOutDocument .blank more
      return (r.value, r.draft.graph, r.rest)
    | (_, rest) => throw (Error.noNode.orBreak rest)
  | _ =>
    let r ← readNode ⟨Handles.standard, greatestDepth⟩ .inBlock .blank ts
    return (r.value, r.draft.graph, r.rest)

/-- Refuses all that follows a document but the marks of its end. -/
def checkEnd (ts : List Token) : Except Error Unit := do
  let rest := ts.dropWhile (· == .documentEnd)
  if !rest.isEmpty then
    let (_, rest) ← readDirectives false [] rest
    throw (Error.severalDocuments.orBreak rest)

/-- The root and the graph of the only document, if there is one. -/
def Graph.ofTokens? (ts : List Token) : Except Error (Option (NodeId × Graph)) :=
  match ts with
  | [] => .ok none
  | ts => do
    let (root, g, rest) ← readDocument ts
    checkEnd rest
    return some (root, g)

/-- The data of the only document of a file; null without a document. -/
def read (s : Source) : Except Error Value := do
  match ← Graph.ofTokens? (Token.ofSource s) with
  | some (root, g) =>
    let (item, objects) ← g.objectsFrom root
    return item.value objects
  | none => return .null

end Assay.Yaml
