import Assay.Decimal.Binary64
import Assay.Text.Integer

/-!
# Integers out of range

An integer is rounded to a floating point number, and one that is too great becomes infinite. The
greatest finite number is `(2 ^ 53 - 1) * 2 ^ 971`. The next number of its kind would be
`2 ^ 1024`, and the middle between the two is rounded up, because the mantissa is odd. So the middle
is the least integer that is too great (`Binary64.isInfinite_ofInt_iff`). At the other end nothing is
lost: a positive integer stays positive (`Binary64.isPositive_ofInt`).

An integer of any size can be held, but only one of at most `Integer.digitLimit` decimal digits can be
written (`Integer.isWritable_iff`).
-/

namespace Assay

/-! ## Powers -/

theorem twoTo_add (j k : Nat) : twoTo (j + k) = twoTo j * twoTo k := Nat.pow_add 2 j k

theorem twoTo_le_twoTo {j k : Nat} (h : j ≤ k) : twoTo j ≤ twoTo k :=
  Nat.pow_le_pow_right (by decide) h

theorem twoTo_log2_le {n : Nat} (h : n ≠ 0) : twoTo n.log2 ≤ n := Nat.log2_self_le h

theorem lt_twoTo_log2_succ (n : Nat) : n < twoTo (n.log2 + 1) := Nat.lt_log2_self

theorem twoTo_three_mul_le (k : Nat) : twoTo (3 * k) ≤ tenTo k := by
  induction k with
  | zero => exact Nat.le_refl 1
  | succ k ih =>
    have hstep : twoTo (3 * (k + 1)) = twoTo (3 * k) * 8 := twoTo_add (3 * k) 3
    rw [hstep, tenTo_succ]
    omega

/-! ## Integers as floating point numbers -/

namespace Binary64

/-- The least integer that is rounded to no finite number. -/
def leastTooGreat : Nat := (twoTo 54 - 1) * twoTo 970

theorem leastTooGreat_pos : 0 < leastTooGreat := Nat.mul_pos (by decide) (twoTo_pos 970)

variable {n : Nat}

theorem floorLog2_one (h : n ≠ 0) : floorLog2 n 1 = n.log2 := by
  have hle : twoTo n.log2 ≤ n := twoTo_log2_le h
  have hone : Nat.log2 1 = 0 := by decide
  have hneg : (-((n.log2 : Int) - 0)).toNat = 0 := by omega
  have hpos : ((n.log2 : Int) - 0).toNat = n.log2 := by omega
  simp only [floorLog2, hone, Int.natCast_zero, hneg, hpos, twoTo_zero, Nat.mul_one, Nat.one_mul]
  rw [if_neg (Nat.not_lt.mpr hle), Int.sub_zero]

/-- A number below `2 ^ 53` steps is rounded up to that exactly if it is at least in the middle
between the last two. -/
theorem roundDiv_eq_twoTo_iff {half : Nat} (hhalf : 0 < half) (hn : n < twoTo 53 * (half * 2)) :
    roundDiv n (half * 2) = twoTo 53 ↔ (twoTo 54 - 1) * half ≤ n := by
  have h53 : twoTo 53 = 9007199254740992 := rfl
  have h54 : twoTo 54 = 18014398509481984 := rfl
  have hsplit : half * 2 * (n / (half * 2)) + n % (half * 2) = n := Nat.div_add_mod n (half * 2)
  have hrest : n % (half * 2) < half * 2 := Nat.mod_lt n (by omega)
  have hquotient : n / (half * 2) < twoTo 53 := (Nat.div_lt_iff_lt_mul (by omega)).mpr hn
  unfold roundDiv
  generalize n / (half * 2) = q at *
  generalize n % (half * 2) = r at *
  by_cases hlast : q = twoTo 53 - 1
  · -- the last step: the middle goes up, since the quotient is odd
    subst hlast
    rw [h53] at hsplit ⊢
    rw [h54]
    dsimp only
    split
    · omega
    · split <;> omega
  · have hbelow : half * 2 * q ≤ half * 2 * (twoTo 53 - 2) := Nat.mul_le_mul_left _ (by omega)
    rw [h53] at hquotient hlast hbelow ⊢
    rw [h54]
    dsimp only
    split
    · omega
    · split <;> omega

theorem ofRatio_one (negative : Bool) (h : n ≠ 0) :
    ofRatio negative n 1 =
      let e : Int := n.log2 - 52
      let m := roundDiv (n * twoTo (-e).toNat) (twoTo e.toNat)
      if m = twoTo 53 then
        if 971 < e + 1 then .infinite negative else .finite negative (twoTo 52) (e + 1)
      else if 971 < e then .infinite negative else .finite negative m e := by
  have hmax : max ((n.log2 : Int) - 52) leastExponent = (n.log2 : Int) - 52 :=
    Int.max_eq_left (by unfold leastExponent; omega)
  simp only [ofRatio, h, false_or, floorLog2_one h, hmax, Nat.one_mul, if_false, Nat.one_ne_zero,
    precision, greatestExponent]
  split <;> rfl

/-- An integer is rounded to an infinite number exactly if it is too great. -/
theorem isInfinite_ofRatio_one_iff (negative : Bool) (h : n ≠ 0) :
    (ofRatio negative n 1).isInfinite = true ↔ leastTooGreat ≤ n := by
  have hlow : twoTo n.log2 ≤ n := twoTo_log2_le h
  have hhigh : n < twoTo (n.log2 + 1) := lt_twoTo_log2_succ n
  have hbound : leastTooGreat = (twoTo 54 - 1) * twoTo 970 := rfl
  have h53 : twoTo 53 = 9007199254740992 := rfl
  have h54 : twoTo 54 = 18014398509481984 := rfl
  have h971 : twoTo 971 = twoTo 970 * 2 := twoTo_succ 970
  have h1023 : twoTo 1023 = twoTo 53 * twoTo 970 := twoTo_add 53 970
  have h1024 : twoTo 1024 = twoTo 54 * twoTo 970 := twoTo_add 54 970
  have hpos : 0 < twoTo 970 := twoTo_pos 970
  rw [h53] at h1023
  rw [h54] at h1024 hbound
  rw [ofRatio_one negative h]
  rcases Nat.lt_trichotomy n.log2 1023 with hlt | heq | hgt
  · -- even one more power of two is finite
    have hbelow : twoTo (n.log2 + 1) ≤ twoTo 1023 := twoTo_le_twoTo (by omega)
    have hroom : ¬ 971 < (n.log2 : Int) - 52 := by omega
    have hroom' : ¬ 971 < (n.log2 : Int) - 52 + 1 := by omega
    refine iff_of_false ?_ (by omega)
    dsimp only
    rw [if_neg hroom, if_neg hroom']
    split <;> nofun
  · rw [heq, h1024] at hhigh
    have hexponent : ((1023 : Nat) - 52 : Int).toNat = 971 := rfl
    have hscale : (-((1023 : Nat) - 52 : Int)).toNat = 0 := rfl
    have hround : roundDiv n (twoTo 970 * 2) = twoTo 53 ↔ leastTooGreat ≤ n :=
      roundDiv_eq_twoTo_iff hpos (by rw [h53]; omega)
    rw [heq]
    dsimp only
    rw [hexponent, hscale, twoTo_zero, Nat.mul_one, h971, ← hround]
    by_cases hcarry : roundDiv n (twoTo 970 * 2) = twoTo 53
    · rw [if_pos hcarry]
      exact iff_of_true rfl hcarry
    · rw [if_neg hcarry]
      exact iff_of_false nofun hcarry
  · have habove : twoTo 1024 ≤ twoTo n.log2 := twoTo_le_twoTo hgt
    have hfull : 971 < (n.log2 : Int) - 52 := by omega
    have hfull' : 971 < (n.log2 : Int) - 52 + 1 := by omega
    refine iff_of_true ?_ (by omega)
    dsimp only
    rw [if_pos hfull, if_pos hfull', ite_self]
    rfl

theorem isInfinite_ofInt_iff {z : Int} (h : 0 < z) :
    (ofInt z).isInfinite = true ↔ (leastTooGreat : Int) ≤ z := by
  rw [ofInt, isInfinite_ofRatio_one_iff _ (by omega)]
  omega

/-! ## Positive numbers -/

/-- A number is greater than zero. -/
def IsPositive : Binary64 → Prop
  | .finite negative mantissa exponent => 0 < scaled negative mantissa exponent
  | .infinite negative => negative = false
  | .nan => False

theorem isPositive_finite {m : Nat} (h : 0 < m) (e : Int) : (finite false m e).IsPositive := by
  have hscaled : 0 < m * twoTo (e - leastExponent).toNat := Nat.mul_pos h (twoTo_pos _)
  show (0 : Int) < ((m * twoTo (e - leastExponent).toNat : Nat) : Int)
  omega

/-- What is no number is neither positive nor refused as not being so. -/
theorem nonpositive_eq_false_iff {x : Binary64} :
    x.nonpositive = false ↔ x = .nan ∨ x.IsPositive := by
  cases x with
  | finite negative m e =>
    cases negative with
    | true =>
      have hle : ¬ 0 < scaled true m e := by
        simp only [scaled, if_true]
        omega
      simpa [nonpositive, IsPositive] using hle
    | false =>
      rcases Nat.eq_zero_or_pos m with rfl | hpos
      · simp [nonpositive, IsPositive, scaled]
      · have hne : m ≠ 0 := Nat.ne_of_gt hpos
        simp [nonpositive, hne, isPositive_finite hpos e]
  | infinite negative => simp [nonpositive, IsPositive]
  | nan => simp [nonpositive]

theorem div_le_roundDiv (num den : Nat) : num / den ≤ roundDiv num den := by
  unfold roundDiv
  dsimp only
  split
  · omega
  · split <;> omega

/-- A positive integer is not rounded to zero. -/
theorem isPositive_ofInt {z : Int} (h : 0 < z) : (ofInt z).IsPositive := by
  have hne : z.natAbs ≠ 0 := by omega
  have hsign : decide (z < 0) = false := decide_eq_false (by omega)
  have hround : 0 < roundDiv (z.natAbs * twoTo (-((z.natAbs.log2 : Int) - 52)).toNat)
      (twoTo ((z.natAbs.log2 : Int) - 52).toNat) := by
    -- the quotient is at least one, since the power of two is at most the integer
    have hden : twoTo ((z.natAbs.log2 : Int) - 52).toNat ≤ z.natAbs := by
      calc twoTo ((z.natAbs.log2 : Int) - 52).toNat ≤ twoTo z.natAbs.log2 :=
            twoTo_le_twoTo (by omega)
        _ ≤ z.natAbs := twoTo_log2_le hne
    have hnum := Nat.le_trans hden
      (Nat.le_mul_of_pos_right z.natAbs (twoTo_pos (-((z.natAbs.log2 : Int) - 52)).toNat))
    exact Nat.lt_of_lt_of_le (Nat.div_pos hnum (twoTo_pos _)) (div_le_roundDiv _ _)
  rw [ofInt, hsign, ofRatio_one false hne]
  dsimp only
  split
  · split
    · rfl
    · exact isPositive_finite (twoTo_pos 52) _
  · split
    · rfl
    · exact isPositive_finite hround _

end Binary64

/-! ## Integers in writing -/

theorem Integer.isWritable_iff {z : Int} : isWritable z = true ↔ z.natAbs < tenTo digitLimit := by
  rw [isWritable, Bool.or_eq_true, decide_eq_true_eq, decide_eq_true_eq]
  refine or_iff_right_of_imp fun hfew => ?_
  calc z.natAbs < twoTo (z.natAbs.log2 + 1) := lt_twoTo_log2_succ _
    _ ≤ twoTo (3 * digitLimit) := twoTo_le_twoTo hfew
    _ ≤ tenTo digitLimit := twoTo_three_mul_le digitLimit

end Assay
