import Assay.Text.Basic

/-!
# Bytes in base 64

Four characters write three bytes. Characters that are no digits are passed over; a group of two or
three digits is filled up with equals signs, and what follows a group that is filled up does not
count.
-/

namespace Assay.Yaml.Base64

/-- The value of a digit. -/
def digitValue? (c : Char) : Option Nat :=
  if 'A' ≤ c ∧ c ≤ 'Z' then some (c.toNat - 0x41)
  else if 'a' ≤ c ∧ c ≤ 'z' then some (c.toNat - 0x61 + 26)
  else if '0' ≤ c ∧ c ≤ '9' then some (c.toNat - 0x30 + 52)
  else if c = '+' then some 62
  else if c = '/' then some 63
  else none

/-- The bytes from a place on: after `taken` digits of a group, of which `held` is the value of the
bits that are in no byte yet, and after `fills` equals signs. -/
def bytesFrom (taken held fills : Nat) : Text → Option (List UInt8)
  | [] => if taken = 0 then some [] else none
  | c :: rest =>
    if c = '=' then
      if taken < 2 then bytesFrom taken held fills rest
      else if 4 ≤ taken + fills + 1 then some []
      else bytesFrom taken held (fills + 1) rest
    else match digitValue? c, taken with
      | none, _ => bytesFrom taken held fills rest
      | some d, 0 => bytesFrom 1 d 0 rest
      | some d, 1 => (bytesFrom 2 (d % 16) 0 rest).map ((held * 4 + d / 16).toUInt8 :: ·)
      | some d, 2 => (bytesFrom 3 (d % 4) 0 rest).map ((held * 16 + d / 4).toUInt8 :: ·)
      | some d, _ => (bytesFrom 0 0 0 rest).map ((held * 64 + d).toUInt8 :: ·)

/-- The bytes that an ASCII text writes. -/
def decode? (t : Text) : Option (List UInt8) :=
  if t.all fun c => c.toNat < 128 then bytesFrom 0 0 0 t else none

end Assay.Yaml.Base64
