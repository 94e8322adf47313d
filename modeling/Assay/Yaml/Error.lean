import Assay.Calendar
import Assay.Text.CodePoint

/-!
# Errors of YAML documents

Why a file gives no data. Most errors are complaints about the document: its characters, its
layout, its structure or its tags are wrong. The others are about its bytes or its depth, or arise
while a scalar that a tag announces as a number, a truth value or a time is read, and say why it is
none.
-/

namespace Assay.Yaml

/-- Why a document gives no data. -/
inductive Error where
  -- characters and layout
  /-- The bytes are no text. -/
  | undecodable
  | character (c : Char)
  /-- A key that has to be there is not followed by a colon. -/
  | keyWithoutColon
  | entryNotAllowed
  | keyNotAllowed
  | valueNotAllowed
  | noToken (c : Char)
  /-- A bracket or brace that closes nothing. -/
  | unopened
  | directive
  | anchorName
  | tagSyntax
  | blockHeader
  | unclosedQuote
  /-- A mark between documents inside a quoted scalar. -/
  | markInQuote
  | escape
  -- structure
  | noNode
  | unclosedCollection
  | missingSeparator
  | version
  | repeatedDirective
  | unknownHandle
  | repeatedAnchor (name : List Char)
  | unknownAlias (name : List Char)
  | severalDocuments
  /-- Nodes are in one another too deep, or without an end. -/
  | tooDeep
  -- data
  | unknownTag (name : List Char)
  /-- A collection where the tag asks for a scalar, or the other way round. -/
  | wrongKind
  | collectionAsKey
  | merge
  | base64
  -- scalars that are not what their tag says
  | codePoint (n : Nat)
  | emptyNumber
  | notInteger (complaint : String)
  | notReal (text : CodeText)
  | tooGreat
  | notTruth
  | notTime
  /-- A mapping where the text of a time is wanted. -/
  | notText
  | calendar (e : CalendarError)
  deriving DecidableEq, Repr

/-- Whether an error is a complaint about the document, and not about its bytes, its depth or a single
scalar. -/
def Error.isMalformed : Error → Bool
  | .undecodable | .tooDeep | .codePoint _ | .emptyNumber | .notInteger _ | .notReal _ | .tooGreat
  | .notTruth | .notTime | .notText | .calendar _ => false
  | _ => true

/-- What is wrong beyond the document, in words, where there are words for it. -/
def Error.complaint? : Error → Option String
  | .codePoint _ => some "chr() arg not in range(0x110000)"
  | .notInteger complaint => some complaint
  | .notReal t => some ("could not convert string to float: " ++ String.ofList t.quoted)
  | .calendar e => some e.message
  | .tooDeep => some "maximum recursion depth exceeded"
  | _ => none

end Assay.Yaml
