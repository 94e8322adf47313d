import Assay.Config.Reader

/-!
# Documents and data

A file is read as a document, and the document is taken as data. Between the two stands one test:
a document that counts as nothing is replaced by a mapping without entries. That is meant for an
empty file, whose document is null. But other documents count as nothing as well (`Value.IsHollow`),
among them `false`, `0` and `[]`, and each of those is refused as data.

So a file and its document have the same outcome exactly if the document is not hollow, null aside.
This is so for every reader of documents, since it only says which document is in a file.
-/

namespace Assay

/-- The values that count as nothing and are neither null nor a mapping. -/
inductive Value.IsHollow : Value → Prop
  | bool : IsHollow (.bool false)
  | int : IsHollow (.int 0)
  | real {x : Binary64} (h : x.isZero = true) : IsHollow (.real x)
  | text : IsHollow (.text "")
  | codes : IsHollow (.codes [])
  | bytes : IsHollow (.bytes [])
  | list : IsHollow (.list [])
  | tuple : IsHollow (.tuple [])
  | set : IsHollow (.set [])

namespace Value.IsHollow

variable {v : Value}

theorem isEmpty (h : v.IsHollow) : v.isEmpty = true := by
  cases h with
  | real h => exact h
  | text => simp [Value.isEmpty]
  | _ => rfl

theorem ne_map (h : v.IsHollow) (entries : List (Value × Value)) : v ≠ .map entries := by
  rintro rfl
  cases h

end Value.IsHollow

theorem Value.isEmpty_iff {v : Value} :
    v.isEmpty = true ↔ v = .null ∨ v = .map [] ∨ v.IsHollow := by
  constructor
  · intro h
    cases v with
    | null => exact .inl rfl
    | bool b =>
      cases b with
      | false => exact .inr (.inr .bool)
      | true => cases h
    | int n =>
      obtain rfl : n = 0 := by simpa [isEmpty] using h
      exact .inr (.inr .int)
    | real x => exact .inr (.inr (.real h))
    | text s =>
      obtain rfl : s = "" := by simpa [isEmpty] using h
      exact .inr (.inr .text)
    | codes t =>
      obtain rfl := List.isEmpty_iff.mp h
      exact .inr (.inr .codes)
    | bytes data =>
      obtain rfl := List.isEmpty_iff.mp h
      exact .inr (.inr .bytes)
    | list items =>
      obtain rfl := List.isEmpty_iff.mp h
      exact .inr (.inr .list)
    | tuple items =>
      obtain rfl := List.isEmpty_iff.mp h
      exact .inr (.inr .tuple)
    | set items =>
      obtain rfl := List.isEmpty_iff.mp h
      exact .inr (.inr .set)
    | map entries =>
      obtain rfl := List.isEmpty_iff.mp h
      exact .inr (.inl rfl)
    | date d | time t | elided shape => cases h
  · rintro (rfl | rfl | h)
    · rfl
    · rfl
    · exact h.isEmpty

namespace Config

variable {ε : Type} {reader : Reader ε} {room : Nat} {v : Value} {name : String}
  {bytes : List UInt8}

/-- Data that is no mapping is refused for its type. -/
theorem ofValue_of_ne_map (h : ∀ entries, v ≠ .map entries) :
    ofValue v room = .error (.notMapping v.typeName) := by
  cases v with
  | map entries => exact absurd rfl (h entries)
  | _ => rfl

theorem ofDocument_of_isEmpty (h : v.isEmpty = true) : ofDocument v room = .ok standard := by
  rw [ofDocument, if_pos h]
  rfl

/-- A document that does not count as nothing is taken as it is; a mapping without entries says
nothing either way. -/
theorem ofDocument_of_not_hollow (hnull : v ≠ .null) (h : ¬ v.IsHollow) :
    ofDocument v room = ofValue v room := by
  by_cases hempty : v.isEmpty = true
  · obtain hv | rfl | hhollow := Value.isEmpty_iff.mp hempty
    · exact absurd hv hnull
    · rfl
    · exact absurd hhollow h
  · rw [ofDocument, if_neg hempty]

theorem load_of_read (hread : reader.read bytes = .ok v) :
    reader.load name (some bytes) room = (ofDocument v room).mapError .config := by
  rw [Reader.load, hread]

/-- **A file has the outcome of its document as data exactly if the document is not hollow**, null
aside, which gives the standard configuration. So the documents that are refused for being no
mapping are those that are not hollow; a hollow one gives the standard configuration instead. -/
theorem load_eq_ofValue_iff_not_hollow (reader : Reader ε) (room : Nat) (name : String)
    (hread : reader.read bytes = .ok v) :
    (v = .null → reader.load name (some bytes) room = .ok standard) ∧
      (v ≠ .null →
        (reader.load name (some bytes) room = (ofValue v room).mapError .config ↔ ¬ v.IsHollow)) ∧
      (v ≠ .null → (∀ entries, v ≠ .map entries) →
        (reader.load name (some bytes) room = .error (.config (.notMapping v.typeName)) ↔
          ¬ v.IsHollow)) ∧
      (v.IsHollow →
        reader.load name (some bytes) room = .ok standard ∧
          ofValue v room = .error (.notMapping v.typeName)) := by
  rw [load_of_read hread]
  let named : Error → Failure ε := .config
  have hhollow (h : v.IsHollow) : (ofDocument v room).mapError named = .ok standard := by
    rw [ofDocument_of_isEmpty h.isEmpty]
    rfl
  have hrefused (h : ∀ entries, v ≠ .map entries) :
      (ofValue v room).mapError named = .error (.config (.notMapping v.typeName)) := by
    rw [ofValue_of_ne_map h]
    rfl
  have hsame (hnull : v ≠ .null) :
      (ofDocument v room).mapError named = (ofValue v room).mapError named ↔ ¬ v.IsHollow := by
    constructor
    · intro heq h
      rw [hhollow h, hrefused h.ne_map] at heq
      cases heq
    · intro h
      rw [ofDocument_of_not_hollow hnull h]
  refine ⟨?_, hsame, ?_, fun h => ⟨hhollow h, ofValue_of_ne_map h.ne_map⟩⟩
  · rintro rfl
    rfl
  · intro hnull hmap
    rw [← hrefused hmap]
    exact hsame hnull

/-- A reader of two documents, `[]` and `[[]]`. -/
def brackets : Reader Unit where
  read
    | [0x5B, 0x5D] => .ok (.list [])
    | [0x5B, 0x5B, 0x5D, 0x5D] => .ok (.list [.list []])
    | _ => .error ()
  isMalformed _ := true

/-- The list `[[]]` is refused: it has an item, though one that counts as nothing. -/
theorem load_eq_ofValue_iff_not_hollow_nested :
    brackets.read [0x5B, 0x5B, 0x5D, 0x5D] = .ok (.list [.list []]) ∧
      ¬ (Value.list [.list []]).IsHollow ∧
      brackets.load "nested.yaml" (some [0x5B, 0x5B, 0x5D, 0x5D])
        = .error (.config (.notMapping "list")) := by
  have hread : brackets.read [0x5B, 0x5B, 0x5D, 0x5D] = .ok (.list [.list []]) := rfl
  have hrefused := (load_eq_ofValue_iff_not_hollow brackets Value.standardRoom "nested.yaml"
    hread).2.2.1
  exact ⟨hread, nofun, (hrefused nofun nofun).mpr nofun⟩

/-- The list `[]` is taken from a file and refused as data. -/
theorem loaded_and_refused :
    brackets.read [0x5B, 0x5D] = .ok (.list []) ∧
      brackets.load "empty.yaml" (some [0x5B, 0x5D]) = .ok standard ∧
      ofValue (.list []) = .error (.notMapping "list") :=
  ⟨rfl, rfl, rfl⟩

end Config

end Assay
