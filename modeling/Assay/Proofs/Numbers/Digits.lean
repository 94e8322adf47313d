import Assay.Proofs.Numbers.Range
import Mathlib.Data.Nat.Digits.Defs

/-!
# Numbers in decimal digits

A number is written in decimal digits, and these tell the number: alone (`digits_injective`), in
front of a character that is no digit (`digits_append_cons_inj`), and to a reader of integers, as
long as they are not too many (`Integer.read?_digits`). What can be read is never longer than that
(`Integer.natAbs_lt_of_read?`).
-/

namespace Assay

/-! ## Digits of a number -/

theorem isDigit_of_mem_digits {n : Nat} {c : Char} (h : c ∈ Nat.toDigits 10 n) :
    c.isDigit = true :=
  Nat.isDigit_of_mem_toDigits (by decide) (by decide) h

theorem digits_injective : Function.Injective (Nat.toDigits 10) := by
  intro n m h
  have hvalue := congrArg (Nat.ofDigitChars 10 · 0) h
  simpa only [Nat.ofDigitChars_ten_toDigits] using hvalue

theorem length_digits_le {n k : Nat} (hk : 0 < k) (h : n < tenTo k) :
    (Nat.toDigits 10 n).length ≤ k :=
  Nat.toDigits_length 10 n k hk h

theorem tenTo_le_tenTo {j k : Nat} (h : j ≤ k) : tenTo j ≤ tenTo k :=
  Nat.pow_le_pow_right (by decide) h

/-- A number in front of a character that is no digit ends there. -/
theorem digits_append_cons_inj {n m : Nat} {c : Char} {u v : List Char} (hc : c.isDigit = false)
    (h : Nat.toDigits 10 n ++ c :: u = Nat.toDigits 10 m ++ c :: v) : n = m ∧ u = v := by
  have htake (k : Nat) (rest : List Char) :
      (Nat.toDigits 10 k ++ c :: rest).takeWhile Char.isDigit = Nat.toDigits 10 k := by
    rw [List.takeWhile_append_of_pos fun d hd => isDigit_of_mem_digits hd,
      List.takeWhile_cons_of_neg (by rw [hc]; exact Bool.false_ne_true), List.append_nil]
  have hdigits := congrArg (List.takeWhile Char.isDigit) h
  rw [htake, htake] at hdigits
  rw [hdigits, List.append_cancel_left_eq, List.cons.injEq] at h
  exact ⟨digits_injective hdigits, h.2⟩

theorem isBlank_of_isDigit {c : Char} (h : c.isDigit = true) : isBlank c = false := by
  simp only [Char.isDigit, Bool.and_eq_true, decide_eq_true_eq] at h
  have hleast : 48 ≤ c.toNat := h.1
  have hmost : c.toNat ≤ 57 := h.2
  simp [isBlank, inRanges, blankRanges]
  omega

theorem Text.trim_eq_self {drops : Char → Bool} {t : Text} (h : ∀ c ∈ t, drops c = false) :
    t.trim drops = t := by
  have hkeeps {u : Text} (hu : ∀ c ∈ u, drops c = false) : u.dropWhile drops = u := by
    cases u with
    | nil => rfl
    | cons c u =>
      rw [List.dropWhile_cons_of_neg (by rw [hu c List.mem_cons_self]; exact Bool.false_ne_true)]
  rw [trim, hkeeps h, hkeeps (by simpa using h), List.reverse_reverse]

namespace Integer

variable {t : Text} {n : Nat} {z : Int}

/-! ## Reading digits -/

theorem digitOf?_of_isDigit {c : Char} (h : c.isDigit = true) :
    digitOf? 10 c = some (c.toNat - 0x30) := by
  have hvalue : digitValue? c = some (c.toNat - 0x30) := by rw [digitValue?, if_pos h]
  have hlt := digitValue?_lt_ten hvalue
  simp [digitOf?, hvalue, hlt]

theorem digits?_of_isDigit {afterDigit : Bool} (h : ∀ c ∈ t, c.isDigit = true)
    (hsome : afterDigit = true ∨ t ≠ []) :
    digits? 10 afterDigit t = some (t.map fun c => c.toNat - 0x30) := by
  induction t generalizing afterDigit with
  | nil =>
    obtain rfl : afterDigit = true := by simpa using hsome
    rfl
  | cons c t ih =>
    obtain ⟨hc, ht⟩ := List.forall_mem_cons.mp h
    rw [digits?, digitOf?_of_isDigit hc, ih ht (Or.inl rfl)]
    · rfl
    · rintro rfl
      exact absurd hc (by decide)

theorem ofDigits_map_toNat (t : Text) :
    ofDigits 10 (t.map fun c => c.toNat - 0x30) = Nat.ofDigitChars 10 t 0 := by
  rw [ofDigits, List.foldl_map, Nat.ofDigitChars]
  simp [Nat.mul_comm]

theorem unsigned?_digits (h : n < tenTo digitLimit) :
    unsigned? 10 (Nat.toDigits 10 n) = some n := by
  have hprefix : dropPrefix 10 (Nat.toDigits 10 n) = Nat.toDigits 10 n := by
    simp [dropPrefix, prefixLetter?]
  have hread : digits? 10 false (Nat.toDigits 10 n) = _ :=
    digits?_of_isDigit (fun c hc => isDigit_of_mem_digits hc) (Or.inr Nat.toDigits_ne_nil)
  have hlength : (Nat.toDigits 10 n).length ≤ digitLimit :=
    length_digits_le (by decide) h
  rw [unsigned?, hprefix, hread]
  simp only [bind, Option.bind, List.length_map, ofDigits_map_toNat, Nat.ofDigitChars_ten_toDigits]
  rw [if_neg (by omega)]
  rfl

/-- **A number in decimal digits is read back**, if they are not too many. -/
theorem read?_digits (h : n < tenTo digitLimit) : read? (Nat.toDigits 10 n) = some (n : Int) := by
  have hmargins : Text.stripMargins (Nat.toDigits 10 n) = Nat.toDigits 10 n := by
    refine Text.trim_eq_self fun c hc => ?_
    rw [isMargin, isBlank_of_isDigit (isDigit_of_mem_digits hc), Bool.false_and]
  have hdigit : ∀ c ∈ Nat.toDigits 10 n, c.isDigit = true := fun c hc => isDigit_of_mem_digits hc
  rw [read?, readIn?, hmargins]
  split
  · next rest hrest =>
    rw [hrest] at hdigit
    exact absurd (hdigit '-' List.mem_cons_self) (by decide)
  · next rest hrest =>
    rw [hrest] at hdigit
    exact absurd (hdigit '+' List.mem_cons_self) (by decide)
  · rw [unsigned?_digits h]
    rfl

/-! ## What can be read -/

theorem lt_of_digits? {base : Nat} {afterDigit : Bool} {ds : List Nat}
    (h : digits? base afterDigit t = some ds) : ∀ d ∈ ds, d < base := by
  fun_induction digits? base afterDigit t generalizing ds with
  | case1 =>
    cases h
    nofun
  | case2 | case4 => cases h
  | case3 _ ih => exact ih h
  | case5 afterDigit c rest _ ih =>
    obtain ⟨d, hd, h⟩ := Option.bind_eq_some_iff.mp h
    obtain ⟨more, hmore, h⟩ := Option.bind_eq_some_iff.mp h
    cases h
    refine List.forall_mem_cons.mpr ⟨?_, ih hmore⟩
    exact of_decide_eq_true (Option.filter_eq_some_iff.mp hd).2

theorem foldl_digits_lt {ds : List Nat} (h : ∀ d ∈ ds, d < 10) (front : Nat) :
    ds.foldl (fun n d => n * 10 + d) front < (front + 1) * tenTo ds.length := by
  induction ds generalizing front with
  | nil => simp [tenTo_zero]
  | cons d ds ih =>
    obtain ⟨hd, hds⟩ := List.forall_mem_cons.mp h
    calc (d :: ds).foldl (fun n d => n * 10 + d) front
        < (front * 10 + d + 1) * tenTo ds.length := ih hds _
      _ ≤ (front + 1) * 10 * tenTo ds.length := Nat.mul_le_mul_right _ (by omega)
      _ = (front + 1) * tenTo (d :: ds).length := by
        rw [List.length_cons, tenTo_succ, Nat.mul_assoc, Nat.mul_comm 10]

theorem ofDigits_lt {ds : List Nat} (h : ∀ d ∈ ds, d < 10) : ofDigits 10 ds < tenTo ds.length := by
  simpa [ofDigits] using foldl_digits_lt h 0

theorem unsigned?_lt (h : unsigned? 10 t = some n) : n < tenTo digitLimit := by
  obtain ⟨ds, hds, h⟩ := Option.bind_eq_some_iff.mp h
  split at h
  · cases h
  · next hfew =>
    cases h
    calc ofDigits 10 ds < tenTo ds.length := ofDigits_lt (lt_of_digits? hds)
      _ ≤ tenTo digitLimit := tenTo_le_tenTo (by omega)

/-- **What is read as an integer is not too long to be written.** -/
theorem natAbs_lt_of_read? (h : read? t = some z) : z.natAbs < tenTo digitLimit := by
  -- the sign does not matter to how long a number is
  have hsigned {t : Text} {sign : Int → Int} (hsign : ∀ n, (sign n).natAbs = n.natAbs)
      (h : Option.map sign ((unsigned? 10 t).bind fun n => some (n : Int)) = some z) :
      z.natAbs < tenTo digitLimit := by
    obtain ⟨n, hn, rfl⟩ := Option.map_eq_some_iff.mp h
    obtain ⟨k, hk, hkn⟩ := Option.bind_eq_some_iff.mp hn
    cases hkn
    rw [hsign]
    exact unsigned?_lt hk
  unfold read? readIn? at h
  split at h
  · exact hsigned (fun n => Int.natAbs_neg n) h
  · exact hsigned (fun _ => rfl) h
  · exact hsigned (fun _ => rfl) h

end Integer

end Assay
