import Assay.Text.Basic

/-!
# UTF-8

A character is written as one to four bytes. The first of them tells how many there are and which
values the second one may have, so that no character has two forms and no surrogate has any; all
further bytes carry six bits each. `decode` reads as far as the bytes are text.
-/

namespace Assay.Utf8

/-- The number of bytes of a character by its first byte. -/
def length? (first : UInt8) : Option Nat :=
  if first < 0x80 then some 1
  else if 0xC2 ≤ first ∧ first ≤ 0xDF then some 2
  else if 0xE0 ≤ first ∧ first ≤ 0xEF then some 3
  else if 0xF0 ≤ first ∧ first ≤ 0xF4 then some 4
  else none

/-- The bits of a character in its first byte. -/
def firstBits (length : Nat) (first : UInt8) : Nat :=
  match length with
  | 1 => first.toNat
  | 2 => first.toNat % 0x20
  | 3 => first.toNat % 0x10
  | _ => first.toNat % 0x08

/-- Whether a byte may stand at an index of a character with a first byte. -/
def continues (first : UInt8) (index : Nat) (b : UInt8) : Bool :=
  if index = 1 then
    (if first = 0xE0 then 0xA0 else if first = 0xF0 then 0x90 else 0x80) ≤ b
      && b ≤ (if first = 0xED then 0x9F else if first = 0xF4 then 0x8F else 0xBF)
  else 0x80 ≤ b && b ≤ 0xBF

/-- How many of the bytes after the first one may follow it, at most `count`. -/
def fitting (first : UInt8) : Nat → Nat → List UInt8 → Nat
  | 0, _, _ => 0
  | _, _, [] => 0
  | count + 1, index, b :: rest =>
    if continues first index b then fitting first count (index + 1) rest + 1 else 0

/-- The text that bytes write, and the bytes from the first one on that starts no character. -/
def decode : List UInt8 → Text × List UInt8
  | [] => ([], [])
  | first :: rest =>
    match length? first with
    | none => ([], first :: rest)
    | some length =>
      if fitting first (length - 1) 1 rest = length - 1 then
        let code := (rest.take (length - 1)).foldl (fun n b => n * 0x40 + b.toNat % 0x40)
          (firstBits length first)
        let (text, left) := decode (rest.drop (length - 1))
        (Char.ofNat code :: text, left)
      else ([], first :: rest)
termination_by bytes => bytes.length
decreasing_by
  rw [List.length_drop, List.length_cons]
  exact Nat.lt_succ_of_le (Nat.sub_le _ _)

/-- How many bytes at the front can be the beginning of a character, as far as they go. -/
def begun : List UInt8 → Nat
  | [] => 0
  | first :: rest =>
    match length? first with
    | none => 0
    | some length => fitting first (length - 1) 1 rest + 1

end Assay.Utf8
