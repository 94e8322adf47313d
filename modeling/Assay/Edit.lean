import Assay.Span

/-!
# Edits

An edit replaces the text under a span. Edits of one text are given in its offsets and must not
overlap; they are sorted by place, edits at one place keeping their order, and then applied from the
end of the text backwards, so that the offsets of the earlier ones stay valid.
-/

namespace Assay

/-- The replacement of a stretch of a text. -/
structure Edit where
  span : Span
  newText : Text
  deriving DecidableEq, Repr, Inhabited

namespace Edit

/-- The edit that inserts a text at an offset. -/
def insert (offset : Int) (newText : Text) : Except InvalidSpan Edit :=
  (Span.ofParts offset 0).map fun s => ⟨s, newText⟩

/-- The edit that deletes a stretch. -/
def delete (s : Span) : Edit := ⟨s, []⟩

/-- Why edits cannot be applied. -/
inductive Error where
  | overlap (first second : Span)
  /-- The edit goes beyond the end of the text. -/
  | outside (s : Span)
  deriving DecidableEq, Repr

/-- What is wrong, in words. -/
def Error.message : Error → String
  | .overlap first second => "Overlapping edits at " ++ first.toText ++ " and " ++ second.toText
  | .outside s => "Edit " ++ s.toText ++ " is outside of the document"

/-- The order of edits by place. -/
def placedBefore (a b : Edit) : Bool :=
  a.span.start < b.span.start || (a.span.start == b.span.start && a.span.stop ≤ b.span.stop)

/-- The first two neighbours that overlap. -/
def overlap? : List Edit → Option (Span × Span)
  | a :: b :: rest =>
    if b.span.start < a.span.stop then some (a.span, b.span) else overlap? (b :: rest)
  | _ => none

/-- The text after one edit. -/
def apply (e : Edit) (t : Text) : Except Error Text :=
  if t.length < e.span.stop then .error (.outside e.span)
  else .ok (t.take e.span.start ++ e.newText ++ t.drop e.span.stop)

/-- The text after edits in ascending order, the last one first. -/
def applySorted (t : Text) (edits : List Edit) : Except Error Text :=
  edits.foldr (fun e result => result.bind e.apply) (.ok t)

end Edit

/-- The text after edits that must not overlap. -/
def applyEdits (t : Text) (edits : List Edit) : Except Edit.Error Text :=
  let sorted := edits.mergeSort Edit.placedBefore
  match Edit.overlap? sorted with
  | some (first, second) => .error (.overlap first second)
  | none => Edit.applySorted t sorted

end Assay
