/-!
# Powers of two and of ten

The exact arithmetic on numbers and on their decimals scales by these powers.
-/

namespace Assay

/-- Two to a power. -/
def twoTo (k : Nat) : Nat := Nat.pow 2 k

/-- Ten to a power. -/
def tenTo (k : Nat) : Nat := Nat.pow 10 k

theorem twoTo_zero : twoTo 0 = 1 := rfl

theorem twoTo_succ (k : Nat) : twoTo (k + 1) = twoTo k * 2 := rfl

theorem twoTo_pos (k : Nat) : 0 < twoTo k := Nat.pow_pos Nat.zero_lt_two

theorem tenTo_zero : tenTo 0 = 1 := rfl

theorem tenTo_succ (k : Nat) : tenTo (k + 1) = tenTo k * 10 := rfl

end Assay
