import Assay.Text.Utf8
import Assay.Yaml.Cursor
import Assay.Yaml.Error

/-!
# Reading files

A document is read while it is looked at: the file gives its text in loads, and the first look takes
two of them. Bytes that are no text and characters that no document may hold are errors of the load
that they are in. So an error in the part that has been read goes before one in a later load.
-/

namespace Assay.Yaml

/-- A text as far as it can be read, and what keeps the rest from being read. -/
structure Source where
  text : Text
  stop : Option Error

namespace Source

/-- The number of characters of a load. -/
def loadSize : Nat := 4096

/-- The number of bytes that become text at once. -/
def blockSize : Nat := 8192

/-- The text with every line end as a line feed. -/
def unifyLineEnds : Text → Text
  | '\r' :: '\n' :: rest => '\n' :: unifyLineEnds rest
  | '\r' :: rest => '\n' :: unifyLineEnds rest
  | c :: rest => c :: unifyLineEnds rest
  | [] => []

/-- The text without a carriage return at its end. -/
def withoutFinalReturn (t : Text) : Text := if t.getLast? = some '\r' then t.dropLast else t

/-- The source up to the load with the first character that no document may hold. -/
def checked (s : Source) : Source :=
  let fine := s.text.takeWhile isPrintable
  match s.text.drop fine.length with
  | [] => s
  | c :: _ =>
    let loads := fine.length / loadSize
    ⟨if loads < 2 then [] else s.text.take (loads * loadSize), some (.character c)⟩

/-- The text that comes of all bytes before the block of the one with an index. -/
def beforeBlockOf (i : Nat) (bytes : List UInt8) : Text :=
  if i < bytes.length then
    withoutFinalReturn (Utf8.decode (bytes.take (i / blockSize * blockSize))).1
  else (Utf8.decode bytes).1

/-- The file with some bytes. -/
def ofBytes (bytes : List UInt8) : Source :=
  match Utf8.decode bytes with
  | (t, []) => checked ⟨unifyLineEnds t, none⟩
  | (t, left) =>
    let wrong := bytes.length - left.length + Utf8.begun left
    let loads := (unifyLineEnds (beforeBlockOf wrong bytes)).length / loadSize
    checked ⟨if loads < 2 then [] else (unifyLineEnds t).take (loads * loadSize), some .undecodable⟩

end Source

end Assay.Yaml
