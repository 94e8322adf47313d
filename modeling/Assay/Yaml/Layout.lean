import Assay.Yaml.Property
import Assay.Yaml.Source

/-!
# The layout of a YAML document

Tokens are read from left to right. Outside of brackets, columns tell where block collections start
and end, so the reader keeps the columns of the collections that are open. A key needs no mark in
front: every node that may turn out to be one is remembered, and the colon after it puts a key mark
before it. Such a node and its colon stand on one line, at most `keyReach` characters apart. At each
level of brackets one node at most is remembered.

Tokens can be taken before the whole text is read, so an error in the text may come too late to
matter. Where reading fails, the tokens that can be taken until then are followed by the error.

## Termination

Every token takes at least one character of the text, so the length of the text bounds their number.
-/

namespace Assay.Yaml

/-- The greatest distance from the start of a key without a mark to its colon. -/
def keyReach : Nat := 1024

/-- How deep brackets are read. Whoever takes the tokens has given up long before such a depth, since
brackets further than `keyReach` behind the place can be taken. -/
def greatestNesting : Nat := 2 * keyReach

/-- A node that may turn out to be a key. -/
structure PossibleKey where
  /-- The number of tokens before the node. -/
  tokens : Nat
  /-- Whether nothing but a key can stand there. -/
  required : Bool
  index : Nat
  line : Nat
  column : Nat
  deriving Repr

/-- What the reader of tokens knows. -/
structure Layout where
  place : Cursor
  /-- The tokens up to the place, the last one first. -/
  tokens : List Token
  /-- How many tokens there are. -/
  count : Nat
  /-- The columns of the open block collections, the innermost first. -/
  columns : List Nat
  /-- Whether a key without a mark may start at the place. -/
  keyAllowed : Bool
  /-- The possible key at the current level of brackets. -/
  key : Option PossibleKey
  /-- The possible keys at the outer levels, the innermost first. -/
  outer : List (Option PossibleKey)

namespace Layout

/-- Before a text. A byte order mark at its start is left out. -/
def start (t : Text) : Layout :=
  let c := Cursor.start t
  { place := if c.next? = some '\ufeff' then c.advance else c
    tokens := []
    count := 0
    columns := []
    keyAllowed := true
    key := none
    outer := [] }

/-- Whether the place is inside brackets. -/
def inBrackets (s : Layout) : Bool := !s.outer.isEmpty

/-- The layout with one more token. -/
def emit (t : Token) (s : Layout) : Layout :=
  { s with tokens := t :: s.tokens, count := s.count + 1 }

/-- The layout with a token put in after the first `n` ones. -/
def emitAt (n : Nat) (t : Token) (s : Layout) : Layout :=
  let (later, earlier) := s.tokens.splitAt (s.count - n)
  { s with tokens := later ++ t :: earlier, count := s.count + 1 }

/-- The layout at another place. -/
def moveTo (c : Cursor) (s : Layout) : Layout := { s with place := c }

/-- The layout with the next character left behind. -/
def advance (s : Layout) : Layout := s.moveTo s.place.advance

/-! ## Block collections -/

/-- The columns that are left, and the number of collections that end, where the text goes on at a
column; it goes on at none at the end of a document. -/
def close (column : Option Nat) : List Nat → List Nat × Nat
  | [] => ([], 0)
  | innermost :: columns =>
    if column.all (· < innermost) then
      let (left, ended) := close column columns
      (left, ended + 1)
    else (innermost :: columns, 0)

/-- Ends the block collections that a column is not inside of. In brackets columns mean nothing. -/
def unwind (column : Option Nat) (s : Layout) : Layout :=
  if s.inBrackets then s
  else
    let (left, ended) := close column s.columns
    { s with
      columns := left
      tokens := List.replicate ended Token.blockEnd ++ s.tokens
      count := s.count + ended }

/-- Whether a column starts a block collection inside the open ones. -/
def isDeeper (column : Nat) (s : Layout) : Bool := s.columns.head?.all (· < column)

/-- Starts a block collection at a column, with a token after the first `n` ones, unless one is
open there. -/
def indent (column n : Nat) (t : Token) (s : Layout) : Layout :=
  if s.isDeeper column then emitAt n t { s with columns := column :: s.columns } else s

/-! ## Possible keys -/

/-- Whether a possible key is too far back to be one. -/
def isStale (s : Layout) (k : PossibleKey) : Bool :=
  k.line ≠ s.place.line || keyReach < s.place.index - k.index

/-- Forgets the possible keys that are too far back. -/
def expire (s : Layout) : Except Error Layout :=
  if (s.key :: s.outer).any fun k => k.any fun k => s.isStale k && k.required then
    .error .keyWithoutColon
  else
    .ok { s with
      key := s.key.filter fun k => !s.isStale k
      outer := s.outer.map fun k => k.filter fun k => !s.isStale k }

/-- Forgets the possible key at the current level. -/
def forget (s : Layout) : Except Error Layout :=
  if s.key.any PossibleKey.required then .error .keyWithoutColon else .ok { s with key := none }

/-- Remembers the place as that of a possible key, if one is allowed there. -/
def remember (s : Layout) : Except Error Layout :=
  if s.keyAllowed then do
    let s ← s.forget
    return { s with
      key := some
        { tokens := s.count
          required := !s.inBrackets && s.columns.head? == some s.place.column
          index := s.place.index
          line := s.place.line
          column := s.place.column } }
  else .ok s

/-! ## Single tokens -/

/-- The directive at the place. -/
def directive (s : Layout) : Except Error Layout := do
  let s ← (s.unwind none).forget
  let (d, c) ← Property.directive s.place
  return { s.moveTo c with keyAllowed := false }.emit (.directive d)

/-- The mark of the start or the end of a document at the place. -/
def documentMark (t : Token) (s : Layout) : Except Error Layout := do
  let s ← (s.unwind none).forget
  return { s.moveTo (Cursor.advanceBy 3 s.place) with keyAllowed := false }.emit t

/-- The opening bracket or brace at the place. It may start a key. -/
def opening (t : Token) (s : Layout) : Except Error Layout := do
  if greatestNesting ≤ s.outer.length then throw .tooDeep
  let s ← s.remember
  return { s.advance with keyAllowed := true, key := none, outer := s.key :: s.outer }.emit t

/-- The closing bracket or brace at the place. -/
def closing (t : Token) (s : Layout) : Except Error Layout := do
  let s ← s.forget
  match s.outer with
  | [] => throw .unopened
  | key :: outer =>
    return { s.advance with keyAllowed := false, key := key, outer := outer }.emit t

/-- The comma at the place. -/
def separator (s : Layout) : Except Error Layout := do
  let s ← s.forget
  return { s.advance with keyAllowed := true }.emit .separator

/-- The hyphen before an item at the place. -/
def item (s : Layout) : Except Error Layout := do
  if !s.inBrackets && !s.keyAllowed then throw .entryNotAllowed
  let s := if s.inBrackets then s else s.indent s.place.column s.count .blockSequenceStart
  let s ← s.forget
  return { s.advance with keyAllowed := true }.emit .item

/-- The mark before a key at the place. -/
def keyMark (s : Layout) : Except Error Layout := do
  if !s.inBrackets && !s.keyAllowed then throw .keyNotAllowed
  let s := if s.inBrackets then s else s.indent s.place.column s.count .blockMappingStart
  let s ← s.forget
  return { s.advance with keyAllowed := !s.inBrackets }.emit .key

/-- The colon before a value at the place. The possible key, if there is one, is a key now, and
may start a block mapping. -/
def valueMark (s : Layout) : Except Error Layout := do
  match s.key with
  | some k =>
    let s := { s with key := none }.emitAt k.tokens .key
    let s := if s.inBrackets then s else s.indent k.column k.tokens .blockMappingStart
    return { s.advance with keyAllowed := false }.emit .value
  | none =>
    if !s.inBrackets && !s.keyAllowed then throw .valueNotAllowed
    let s := if s.inBrackets then s else s.indent s.place.column s.count .blockMappingStart
    let s ← s.forget
    return { s.advance with keyAllowed := !s.inBrackets }.emit .value

/-- An alias, an anchor or a tag at the place, which may start a key. -/
def property (read : Cursor → Except Error (Token × Cursor)) (s : Layout) :
    Except Error Layout := do
  let s ← s.remember
  let (t, c) ← read s.place
  return { s.moveTo c with keyAllowed := false }.emit t

/-- The block scalar at the place. -/
def blockScalar (folded : Bool) (s : Layout) : Except Error Layout := do
  let s ← s.forget
  let (text, c) ← Scalar.block folded ((s.columns.head?.map (· + 1)).getD 0) s.place
  return { s.moveTo c with keyAllowed := true }.emit (.scalar false (CodeText.ofText text))

/-- The quoted scalar at the place, which may be a key. -/
def quotedScalar (quote : Char) (s : Layout) : Except Error Layout := do
  let s ← s.remember
  let (text, c) ← Scalar.quoted quote s.place
  return { s.moveTo c with keyAllowed := false }.emit (.scalar false text)

/-- The plain scalar at the place, which may be a key. -/
def plainScalar (s : Layout) : Except Error Layout := do
  let s ← s.remember
  let (text, c, ended) :=
    Scalar.plain s.inBrackets ((s.columns.head?.map (· + 1)).getD 0) s.place
  return { s.moveTo c with keyAllowed := ended }.emit (.scalar true (CodeText.ofText text))

/-- The characters that start no plain scalar. -/
def marks : List Char := "-?:,[]\x7b\x7d#&*!|>'\"%@\x60".toList

/-- Whether a plain scalar starts at the place with a character. -/
def startsPlain (ch : Char) (s : Layout) : Bool :=
  !(endsWord (some ch) || marks.contains ch)
    || !endsWord s.place.afterNext? && (ch == '-' || !s.inBrackets && (ch == '?' || ch == ':'))

/-- The token that starts at the place with a character. -/
def token (ch : Char) (s : Layout) : Except Error Layout :=
  let c := s.place
  let apart := s.inBrackets || endsWord c.afterNext?
  if ch = '%' ∧ c.column = 0 then s.directive
  else if c.column = 0 ∧ c.atMark '-' then s.documentMark .documentStart
  else if c.column = 0 ∧ c.atMark '.' then s.documentMark .documentEnd
  else if ch = '[' then s.opening .flowSequenceStart
  else if ch = '\x7b' then s.opening .flowMappingStart
  else if ch = ']' then s.closing .flowSequenceEnd
  else if ch = '\x7d' then s.closing .flowMappingEnd
  else if ch = ',' then s.separator
  else if ch = '-' ∧ endsWord c.afterNext? then s.item
  else if ch = '?' ∧ apart then s.keyMark
  else if ch = ':' ∧ apart then s.valueMark
  else if ch = '*' then
    s.property fun c => (Property.name c).map fun (name, c) => (.alias name, c)
  else if ch = '&' then
    s.property fun c => (Property.name c).map fun (name, c) => (.anchor name, c)
  else if ch = '!' then s.property Property.tag
  else if ch = '|' ∧ !s.inBrackets then s.blockScalar false
  else if ch = '>' ∧ !s.inBrackets then s.blockScalar true
  else if ch = '\'' ∨ ch = '"' then s.quotedScalar ch
  else if s.startsPlain ch then s.plainScalar
  else .error (.noToken ch)

/-! ## All tokens -/

/-- The layout at the next token, blanks and comments left behind and the block collections ended
that it is not inside of. -/
def settle (s : Layout) : Except Error Layout := do
  let (ended, c) := s.place.toToken
  let s := s.moveTo c
  let s ← expire { s with keyAllowed := s.keyAllowed || ended && !s.inBrackets }
  return s.unwind (some s.place.column)

/-- The layout after the token that starts at the place with a character. -/
def pass (ch : Char) (s : Layout) : Except Error Layout := do (← s.token ch).expire

/-- How many tokens can be taken without reading on: those before the first possible key, since a key
mark may yet go before that. -/
def settled (s : Layout) : Nat :=
  (s.key :: s.outer).foldl (fun n key => key.elim n fun k => min n k.tokens) s.count

/-- The tokens that can be taken, where an error keeps others from being read. -/
def brokenBy (e : Error) (s : Layout) : List Token :=
  (Token.broken e :: s.tokens.drop (s.count - s.settled)).reverse

end Layout

/-- What is wrong with a token, where the text stops too early for a reason: a quote that does not
end may end behind that. -/
def Error.orStop (stop : Option Error) (e : Error) : Error :=
  match stop, e with
  | some reason, .unclosedQuote => reason
  | _, e => e

/-- The tokens of the rest of a text, which may stop for a reason. The bound is on the number of
tokens. -/
def Token.ofLayout (bound : Nat) (stop : Option Error) (s : Layout) : List Token :=
  match bound, stop, s.place.toToken.2.rest, s.settle with
  | _, some reason, [], _ => s.brokenBy reason
  | _, _, _, .error e => s.brokenBy e
  | bound, stop, _, .ok t =>
    match bound, t.place.rest with
    | _, [] =>
      match (t.unwind none).forget with
      | .error e => s.brokenBy e
      | .ok t => t.tokens.reverse
    | 0, ch :: _ => s.brokenBy (.noToken ch)
    | bound + 1, ch :: _ =>
      match t.pass ch with
      | .error e => s.brokenBy (e.orStop stop)
      | .ok next =>
        match stop, next.place.rest with
        | some reason, [] => s.brokenBy reason
        | _, _ => Token.ofLayout bound stop next

/-- The tokens of a file. Each takes a character at least. -/
def Token.ofSource (s : Source) : List Token :=
  Token.ofLayout s.text.length s.stop (Layout.start s.text)

end Assay.Yaml
