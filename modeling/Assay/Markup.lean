import Assay.Span
import Assay.Text.CodePoint

/-!
# Marked text

A marked text shows stretches of a source between an opening and a closing delimiter, `[|` and `|]`
unless others are chosen. Reading it gives the clean text, without delimiters, and the marked spans
in offsets of the clean text. Marks may follow each other and may not nest.

Reading has two stages. `Delimiters.pieces` scans from left to right for delimiters that do not
overlap, the opening one going first where both start. `resolve` then pairs the delimiters, keeping
count of the offset in the source and of the offset in the clean text.

## Termination

The scan drops a character or a delimiter at a time, and delimiters are not empty.
-/

namespace Assay

namespace Markup

/-! ## Errors -/

/-- What is wrong with a marked text or its delimiters. Offsets are those of the source. -/
inductive Error where
  | emptyDelimiter
  | equalDelimiters
  /-- An opening delimiter while another one is open. -/
  | nested (opening : Text) (offset openedAt : Nat)
  | unmatchedClosing (closing : Text) (offset : Nat)
  | unmatchedOpening (opening : Text) (offset : Nat)
  /-- One marked span is asked for and there is another number of them. -/
  | notOneSpan (found : Nat)
  /-- Marked spans are asked for and there are none. -/
  | noSpan (opening : Text)
  deriving DecidableEq, Repr

/-- Where the offending delimiter stands, if there is one. -/
def Error.offset? : Error → Option Nat
  | .nested _ offset _ | .unmatchedClosing _ offset | .unmatchedOpening _ offset => some offset
  | _ => none

/-- What is wrong, in words. -/
def Error.message : Error → String
  | .emptyDelimiter => "Marker delimiters must be non-empty"
  | .equalDelimiters => "Open and close markers must differ"
  | .nested opening offset openedAt =>
    "Nested marker " ++ String.ofList (Text.quoted opening) ++ " at offset " ++ toString offset
      ++ "; marker opened at offset " ++ toString openedAt ++ " is still open"
  | .unmatchedClosing closing offset =>
    "Unmatched closing marker " ++ String.ofList (Text.quoted closing) ++ " at offset "
      ++ toString offset
  | .unmatchedOpening opening offset =>
    "Unmatched opening marker " ++ String.ofList (Text.quoted opening) ++ " at offset "
      ++ toString offset
  | .notOneSpan found => "Expected exactly one marked span, found " ++ toString found
  | .noSpan opening => "Markup contains no " ++ String.ofList opening ++ " markers"

/-! ## Delimiters -/

/-- A pair of delimiters. -/
structure Delimiters where
  opening : Text
  closing : Text
  opening_ne_nil : opening ≠ []
  closing_ne_nil : closing ≠ []
  distinct : opening ≠ closing

/-- The pair of two texts, which must not be empty and must differ. -/
def Delimiters.ofTexts (opening closing : Text) : Except Error Delimiters :=
  if h : opening = [] ∨ closing = [] then .error .emptyDelimiter
  else if h' : opening = closing then .error .equalDelimiters
  else .ok ⟨opening, closing, fun e => h (.inl e), fun e => h (.inr e), h'⟩

/-- The opening delimiter unless another one is chosen. -/
def standardOpening : String := "[|"

/-- The closing delimiter unless another one is chosen. -/
def standardClosing : String := "|]"

/-- The delimiters unless others are chosen. -/
def Delimiters.standard : Delimiters :=
  ⟨['[', '|'], ['|', ']'], by decide, by decide, by decide⟩

/-! ## Pieces -/

/-- A piece of a marked text: a character of the clean text or a delimiter. -/
inductive Piece where
  | plain (c : Char)
  | opening
  | closing
  deriving DecidableEq, Repr

theorem drop_length_lt {marker : Text} (h : marker ≠ []) (c : Char) (rest : Text) :
    ((c :: rest).drop marker.length).length < (c :: rest).length := by
  have : 0 < marker.length := List.length_pos_iff.2 h
  simp only [List.length_drop, List.length_cons]
  omega

/-- The pieces of a marked text from left to right. -/
def Delimiters.pieces (d : Delimiters) : Text → List Piece
  | [] => []
  | c :: rest =>
    if d.opening.isPrefixOf (c :: rest) then
      .opening :: d.pieces ((c :: rest).drop d.opening.length)
    else if d.closing.isPrefixOf (c :: rest) then
      .closing :: d.pieces ((c :: rest).drop d.closing.length)
    else .plain c :: d.pieces rest
termination_by t => t.length
decreasing_by
  · exact drop_length_lt d.opening_ne_nil c rest
  · exact drop_length_lt d.closing_ne_nil c rest
  · simp

/-- What a piece looks like in the source. -/
def Delimiters.show (d : Delimiters) : Piece → Text
  | .plain c => [c]
  | .opening => d.opening
  | .closing => d.closing

/-! ## Marked text -/

/-- A span between delimiters, with its place in the order of the marks. -/
structure MarkedSpan where
  start : Nat
  length : Nat
  ordinal : Nat
  deriving DecidableEq, Repr, Inhabited

/-- The stretch of the clean text. -/
def MarkedSpan.span (s : MarkedSpan) : Span := ⟨s.start, s.length⟩

/-- A clean text with its marked spans. -/
structure MarkedText where
  text : Text
  spans : List MarkedSpan
  deriving DecidableEq, Repr, Inhabited

/-- The marked text with a character more in front; its spans are counted already. -/
def MarkedText.consText (c : Char) (m : MarkedText) : MarkedText := ⟨c :: m.text, m.spans⟩

/-- The marked text with a span more in front. -/
def MarkedText.consSpan (s : MarkedSpan) (m : MarkedText) : MarkedText := ⟨m.text, s :: m.spans⟩

/-- The only marked span. -/
def MarkedText.singleSpan (m : MarkedText) : Except Error MarkedSpan :=
  match m.spans with
  | [s] => .ok s
  | spans => .error (.notOneSpan spans.length)

/-- A mark that is open: the offsets of its opening delimiter in the clean text and in the
source. -/
structure Pending where
  clean : Nat
  source : Nat
  deriving DecidableEq, Repr

/-- Pairs the delimiters of the pieces that start at offset `source` of the source and `clean` of
the clean text, with `ordinal` marks before them. -/
def resolve (d : Delimiters) (source clean : Nat) (pending : Option Pending) (ordinal : Nat) :
    List Piece → Except Error MarkedText
  | [] =>
    match pending with
    | none => .ok ⟨[], []⟩
    | some p => .error (.unmatchedOpening d.opening p.source)
  | .plain c :: rest =>
    (resolve d (source + 1) (clean + 1) pending ordinal rest).map (.consText c)
  | .opening :: rest =>
    match pending with
    | none => resolve d (source + d.opening.length) clean (some ⟨clean, source⟩) ordinal rest
    | some p => .error (.nested d.opening source p.source)
  | .closing :: rest =>
    match pending with
    | none => .error (.unmatchedClosing d.closing source)
    | some p =>
      (resolve d (source + d.closing.length) clean none (ordinal + 1) rest).map
        (.consSpan ⟨p.clean, clean - p.clean, ordinal⟩)

/-- The clean text and the marked spans of a marked text. -/
def Delimiters.parse (d : Delimiters) (source : Text) : Except Error MarkedText :=
  resolve d 0 0 none 0 (d.pieces source)

/-- Reads a marked text with the delimiters given by two texts. -/
def parse (opening closing : String) (source : Text) : Except Error MarkedText := do
  let d ← Delimiters.ofTexts opening.toList closing.toList
  d.parse source

/-- The delimiter that a text of code points is read as in a source. A text of characters does not
hold one with a lone surrogate, and a text that is too long to occur stands in for that. It is longer
than the source by more than `extra` characters. -/
def readAs (source : Text) (extra : Nat) (marker : CodeText) : Text :=
  marker.text?.getD (List.replicate (source.length + extra + 1) CodePoint.replacement)

/-- The pair of two texts of code points, as far as it matters to a source. -/
def Delimiters.ofCodes (source : Text) (opening closing : CodeText) : Except Error Delimiters :=
  if opening = closing ∧ opening ≠ [] then .error .equalDelimiters
  else
    let extra := opening.length + closing.length
    ofTexts (readAs source extra opening) (readAs source (extra + 1) closing)

/-- Reads a marked text with the delimiters given by two texts of code points. -/
def parseCodes (opening closing : CodeText) (source : Text) : Except Error MarkedText := do
  let d ← Delimiters.ofCodes source opening closing
  d.parse source

/-! ## Laws -/

/-- The pieces put together are the source. -/
theorem Delimiters.flatMap_show_pieces (d : Delimiters) (t : Text) :
    (d.pieces t).flatMap d.show = t := by
  fun_induction Delimiters.pieces d t with
  | case1 => rfl
  | case2 c rest h ih =>
    obtain ⟨more, hm⟩ := List.isPrefixOf_iff_prefix.1 h
    rw [List.flatMap_cons, ih, Delimiters.show, ← hm]
    simp
  | case3 c rest _ h ih =>
    obtain ⟨more, hm⟩ := List.isPrefixOf_iff_prefix.1 h
    rw [List.flatMap_cons, ih, Delimiters.show, ← hm]
    simp
  | case4 c rest _ _ ih =>
    rw [List.flatMap_cons, ih]
    rfl

end Markup

end Assay
