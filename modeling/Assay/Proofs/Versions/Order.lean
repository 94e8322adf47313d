import Assay.Version
import Assay.Proofs.Numbers.Digits

/-!
# The order of versions

Versions have two to four numbers without a bound, and a number has many spellings (signs, blanks,
underscores, digits of other scripts). What a version is compared by is its padded list of four
numbers, so the answers of a gate are those of the lexicographic order of such lists, which is
total. Only the answer "no" of a side that is not known does not fit into an order; every law below
therefore says what is known.

A version is also read back from what is written of it. That needs a bound on its numbers: a number
of too many digits would be written, but not read. No number that was read is that long.
-/

namespace Assay

/-! ## Cutting and joining -/

namespace Text

variable {α : Type} [DecidableEq α] {sep : α} {piece : List α} {pieces : List (List α)}

theorem splitAt_of_notMem (h : sep ∉ piece) : splitAt sep piece = [piece] := by
  induction piece with
  | nil => rfl
  | cons c rest ih =>
    rw [List.mem_cons, not_or] at h
    rw [splitAt, if_neg (Ne.symm h.1), ih h.2]

theorem splitAt_append_cons (h : sep ∉ piece) (rest : List α) :
    splitAt sep (piece ++ sep :: rest) = piece :: splitAt sep rest := by
  induction piece with
  | nil => rw [List.nil_append, splitAt, if_pos rfl]
  | cons c piece ih =>
    rw [List.mem_cons, not_or] at h
    rw [List.cons_append, splitAt, if_neg (Ne.symm h.1), ih h.2]

/-- **Cutting undoes joining**, if what is joined does not hold the separator. -/
theorem splitAt_join (hne : pieces ≠ []) (h : ∀ piece ∈ pieces, sep ∉ piece) :
    splitAt sep (join [sep] pieces) = pieces := by
  induction pieces with
  | nil => exact absurd rfl hne
  | cons piece pieces ih =>
    obtain ⟨hpiece, hpieces⟩ := List.forall_mem_cons.mp h
    cases pieces with
    | nil => rw [join, splitAt_of_notMem hpiece]
    | cons next more =>
      rw [join, List.append_assoc, List.singleton_append, splitAt_append_cons hpiece,
        ih (List.cons_ne_nil _ _) hpieces]
      simp

omit [DecidableEq α] in
theorem mem_join {a : α} (h : a ∈ join [sep] pieces) : a = sep ∨ ∃ piece ∈ pieces, a ∈ piece := by
  induction pieces with
  | nil => cases h
  | cons piece pieces ih =>
    cases pieces with
    | nil => exact Or.inr ⟨piece, List.mem_cons_self, h⟩
    | cons next more =>
      rw [join, List.mem_append, List.mem_append, List.mem_singleton] at h
      · rcases h with (h | h) | h
        · exact Or.inr ⟨piece, List.mem_cons_self, h⟩
        · exact Or.inl h
        · rcases ih h with hsep | ⟨p, hp, ha⟩
          · exact Or.inl hsep
          · exact Or.inr ⟨p, List.mem_cons_of_mem _ hp, ha⟩
      · simp

theorem toList_intercalate (sep : String) (strings : List String) :
    (sep.intercalate strings).toList = join sep.toList (strings.map String.toList) := by
  induction strings with
  | nil => simp [join]
  | cons s strings ih =>
    cases strings with
    | nil => simp [join]
    | cons next more =>
      rw [String.intercalate_cons_cons, String.toList_append, String.toList_append, ih]
      rfl

end Text

namespace Version

/-! ## Lexicographic order -/

/-- One version comes before another one: padded with zeros to four numbers, it is smaller at the
first place where they differ. -/
def Precedes (v w : Version) : Prop := List.Lex (· < ·) v.padded w.padded

/-- One version is padded to the same numbers as another one or comes before it. -/
def IsUpTo (v w : Version) : Prop := v.Precedes w ∨ v.padded = w.padded

theorem compareNumbers_swap (as bs : List Nat) :
    compareNumbers bs as = (compareNumbers as bs).swap := by
  induction as generalizing bs with
  | nil => cases bs <;> rfl
  | cons a as ih =>
    cases bs with
    | nil => rfl
    | cons b bs => rw [compareNumbers, compareNumbers, ih, Ordering.swap_then, Nat.compare_swap]

theorem compareNumbers_eq_lt_iff {as bs : List Nat} :
    compareNumbers as bs = .lt ↔ List.Lex (· < ·) as bs := by
  induction as generalizing bs with
  | nil => cases bs <;> simp [compareNumbers]
  | cons a as ih =>
    cases bs with
    | nil => simp [compareNumbers]
    | cons b bs =>
      rw [compareNumbers, Ordering.then_eq_lt, Nat.compare_eq_lt, Nat.compare_eq_eq, ih,
        List.cons_lex_cons_iff]

theorem compareNumbers_eq_eq_iff {as bs : List Nat} : compareNumbers as bs = .eq ↔ as = bs := by
  induction as generalizing bs with
  | nil => cases bs <;> simp [compareNumbers]
  | cons a as ih =>
    cases bs with
    | nil => simp [compareNumbers]
    | cons b bs =>
      rw [compareNumbers, Ordering.then_eq_eq, Nat.compare_eq_eq, ih, List.cons.injEq]

variable {v w m : Version}

theorem order_eq_lt_iff : v.order w = .lt ↔ v.Precedes w := compareNumbers_eq_lt_iff

theorem order_eq_gt_iff : v.order w = .gt ↔ w.Precedes v := by
  rw [order, compareNumbers_swap, Ordering.swap_eq_gt, compareNumbers_eq_lt_iff]
  rfl

theorem isLE_order_iff : (v.order w).isLE = true ↔ v.IsUpTo w := by
  rw [Ordering.isLE_iff_eq_lt_or_eq_eq, order_eq_lt_iff, order, compareNumbers_eq_eq_iff]
  rfl

theorem isGE_order_iff : (v.order w).isGE = true ↔ w.IsUpTo v := by
  rw [Ordering.isGE_iff_eq_gt_or_eq_eq, order_eq_gt_iff, order, compareNumbers_eq_eq_iff, IsUpTo,
    eq_comm]

theorem IsUpTo.refl (v : Version) : v.IsUpTo v := Or.inr rfl

theorem IsUpTo.trans (h : v.IsUpTo w) (h' : w.IsUpTo m) : v.IsUpTo m := by
  rcases h with hlt | heq
  · rcases h' with hlt' | heq'
    · exact Or.inl (List.lex_trans Nat.lt_trans hlt hlt')
    · rw [Precedes, heq'] at hlt
      exact Or.inl hlt
  · rwa [IsUpTo, Precedes, heq]

/-! ## Writing and reading -/

theorem numbers_of_ofNumbers? {numbers : List Nat} (h : ofNumbers? numbers = some v) :
    v.numbers = numbers := by
  unfold ofNumbers? at h
  split at h
  · cases h
    rfl
  · cases h

theorem ofNumbers?_numbers (v : Version) : ofNumbers? v.numbers = some v := by
  rw [ofNumbers?, dif_pos ⟨v.two_le, v.le_four⟩]

theorem component?_digits {n : Nat} (h : n < tenTo Integer.digitLimit) :
    component? (Nat.toDigits 10 n) = some n := by
  rw [component?, Integer.read?_digits h, Option.bind_some, if_neg (by omega), Int.toNat_natCast]

theorem lt_of_component? {t : Text} {n : Nat} (h : component? t = some n) :
    n < tenTo Integer.digitLimit := by
  obtain ⟨z, hz, h⟩ := Option.bind_eq_some_iff.mp h
  have hlt := Integer.natAbs_lt_of_read? hz
  split at h
  · cases h
  · cases h
    omega

theorem mapM_component?_digits {numbers : List Nat}
    (h : ∀ n ∈ numbers, n < tenTo Integer.digitLimit) :
    (numbers.map (Nat.toDigits 10)).mapM component? = some numbers := by
  induction numbers with
  | nil => rfl
  | cons n numbers ih =>
    obtain ⟨hn, hnumbers⟩ := List.forall_mem_cons.mp h
    rw [List.map_cons, List.mapM_cons, component?_digits hn, ih hnumbers]
    rfl

theorem lt_of_mapM_component? {components : List Text} {numbers : List Nat}
    (h : components.mapM component? = some numbers) :
    ∀ n ∈ numbers, n < tenTo Integer.digitLimit := by
  induction components generalizing numbers with
  | nil =>
    cases h
    nofun
  | cons t components ih =>
    rw [List.mapM_cons] at h
    obtain ⟨n, hn, h⟩ := Option.bind_eq_some_iff.mp h
    obtain ⟨more, hmore, h⟩ := Option.bind_eq_some_iff.mp h
    cases h
    exact List.forall_mem_cons.mpr ⟨lt_of_component? hn, ih hmore⟩

/-- **The numbers of a version that is read are not too long to be written.** -/
theorem lt_of_ofText? {t : Text} (h : ofText? t = some v) :
    ∀ n ∈ v.numbers, n < tenTo Integer.digitLimit := by
  unfold ofText? at h
  dsimp only at h
  split at h
  · cases h
  · obtain ⟨numbers, hnumbers, h⟩ := Option.bind_eq_some_iff.mp h
    rw [numbers_of_ofNumbers? h]
    exact lt_of_mapM_component? hnumbers

theorem toList_toText (v : Version) :
    v.toText.toList = Text.join ['.'] (v.numbers.map (Nat.toDigits 10)) := by
  rw [toText, Text.toList_intercalate, List.map_map]
  simp [Function.comp_def]

/-- **A version is read back**, if its numbers are not too long to be written. -/
theorem ofText?_toText (h : ∀ n ∈ v.numbers, n < tenTo Integer.digitLimit) :
    ofText? v.toText.toList = some v := by
  have hdigit : ∀ piece ∈ v.numbers.map (Nat.toDigits 10), ∀ c ∈ piece, c.isDigit = true := by
    intro piece hpiece c hc
    obtain ⟨n, -, rfl⟩ := List.mem_map.mp hpiece
    exact isDigit_of_mem_digits hc
  have hstrip : Text.strip v.toText.toList = v.toText.toList := by
    refine Text.trim_eq_self fun c hc => ?_
    rw [toList_toText] at hc
    rcases Text.mem_join hc with rfl | ⟨piece, hpiece, hc⟩
    · rfl
    · exact isBlank_of_isDigit (hdigit piece hpiece c hc)
  have hsplit : Text.splitAt '.' v.toText.toList = v.numbers.map (Nat.toDigits 10) := by
    rw [toList_toText]
    refine Text.splitAt_join ?_ fun piece hpiece hc => ?_
    · rw [Ne, List.map_eq_nil_iff, ← List.length_eq_zero_iff]
      have := v.two_le
      omega
    · exact absurd (hdigit piece hpiece '.' hc) (by decide)
  have htwo := v.two_le
  have hfour := v.le_four
  rw [ofText?, hstrip, hsplit]
  rw [if_neg (by rw [List.length_map]; omega), mapM_component?_digits h, Option.bind_some,
    ofNumbers?_numbers]

end Version

/-! ## Gates -/

namespace VersionGate

open Version

/-- The gates that are made of a version as it is written, or of an installed one. -/
inductive IsMade : VersionGate → Prop
  | ofString (s : Option String) (component : String) : IsMade (.ofString s component)
  | ofInstalled (installed : Option String) (component : String) :
      IsMade (.ofInstalled installed component)

/-- What a gate has detected and what a string says, if both are known. -/
def Knows (g : VersionGate) (s : String) (m v : Version) : Prop :=
  g.detected = some m ∧ ofText? s.toList = some v

variable {g : VersionGate} {s : String} {m v w : Version}

/-- What a gate that is made has detected was read from some text. -/
theorem IsMade.exists_ofText? (h : g.IsMade) (hm : g.detected = some m) :
    ∃ t, ofText? t = some m := by
  cases h with
  | ofString s component =>
    obtain ⟨text, -, htext⟩ := Option.bind_eq_some_iff.mp hm
    exact ⟨_, htext⟩
  | ofInstalled installed component =>
    obtain ⟨text, -, htext⟩ := Option.bind_eq_some_iff.mp hm
    exact ⟨_, htext⟩

/-- An answer is yes exactly if both sides are known and stand to each other as it says. -/
theorem any_order?_iff {p : Ordering → Bool} :
    (g.order? s).any p = true ↔ ∃ m v, g.Knows s m v ∧ p (m.order v) = true := by
  rw [Option.any_eq_true]
  constructor
  · rintro ⟨o, ho, hp⟩
    obtain ⟨v, hv, ho⟩ := Option.bind_eq_some_iff.mp ho
    obtain ⟨m, hm, ho⟩ := Option.bind_eq_some_iff.mp ho
    cases ho
    exact ⟨m, v, ⟨hm, hv⟩, hp⟩
  · rintro ⟨m, v, ⟨hm, hv⟩, hp⟩
    refine ⟨m.order v, ?_, hp⟩
    simp [order?, hv, hm]

theorem atLeast_iff : g.atLeast s = true ↔ ∃ m v, g.Knows s m v ∧ v.IsUpTo m := by
  simp only [atLeast, any_order?_iff, isGE_order_iff]

theorem greaterThan_iff : g.greaterThan s = true ↔ ∃ m v, g.Knows s m v ∧ v.Precedes m := by
  simp only [greaterThan, any_order?_iff, Ordering.isGT_iff_eq_gt, order_eq_gt_iff]

theorem lessThan_iff : g.lessThan s = true ↔ ∃ m v, g.Knows s m v ∧ m.Precedes v := by
  simp only [lessThan, any_order?_iff, Ordering.isLT_iff_eq_lt, order_eq_lt_iff]

theorem atMost_iff : g.atMost s = true ↔ ∃ m v, g.Knows s m v ∧ m.IsUpTo v := by
  simp only [atMost, any_order?_iff, isLE_order_iff]

theorem inRange_iff {least greatest : String} : g.inRange least greatest = true ↔
    g.atLeast least = true ∧ g.atMost greatest = true := by
  rw [inRange, Bool.and_eq_true]

/-- With both sides known, one of three answers is yes. -/
theorem count_answers (h : g.Knows s m v) :
    [g.lessThan s, g.greaterThan s, g.atLeast s && g.atMost s].count true = 1 := by
  obtain ⟨hm, hv⟩ := h
  have horder : g.order? s = some (m.order v) := by simp [order?, hv, hm]
  simp only [lessThan, greaterThan, atLeast, atMost, horder, Option.any_some]
  cases m.order v <;> rfl

/-- **A gate answers by the order of versions.** It says of a version that it is reached, passed, not
passed or not reached exactly if both are known and the padded numbers stand so in the lexicographic
order. So one of earlier, later and equal holds of known versions, a version is reached if a later
one is, no range is upside down, and an unknown side makes every answer no. What a gate writes of
its own version is known and equal to it. -/
theorem answers_by_order (h : g.IsMade) :
    (∀ s, (g.atLeast s = true ↔ ∃ m v, g.Knows s m v ∧ v.IsUpTo m) ∧
      (g.greaterThan s = true ↔ ∃ m v, g.Knows s m v ∧ v.Precedes m) ∧
      (g.atMost s = true ↔ ∃ m v, g.Knows s m v ∧ m.IsUpTo v) ∧
      (g.lessThan s = true ↔ ∃ m v, g.Knows s m v ∧ m.Precedes v)) ∧
    (∀ s m v, g.Knows s m v →
      [g.lessThan s, g.greaterThan s, g.atLeast s && g.atMost s].count true = 1) ∧
    (∀ s s' v w, ofText? s.toList = some v → ofText? s'.toList = some w → w.IsUpTo v →
      g.atLeast s = true → g.atLeast s' = true) ∧
    (∀ s s', g.inRange s s' = true →
      ∃ v w, ofText? s.toList = some v ∧ ofText? s'.toList = some w ∧ v.IsUpTo w) ∧
    (∀ s, (∀ m v, ¬ g.Knows s m v) → g.atLeast s = false ∧ g.greaterThan s = false ∧
      g.atMost s = false ∧ g.lessThan s = false ∧
      ∀ s', g.inRange s s' = false ∧ g.inRange s' s = false) ∧
    (g.detected = none → ∀ major minor, g.isVersion major minor = false) ∧
    ∀ m, g.detected = some m → ofText? g.toText.toList = some m ∧ g.atLeast g.toText = true ∧
      g.atMost g.toText = true := by
  refine ⟨fun s => ⟨atLeast_iff, greaterThan_iff, atMost_iff, lessThan_iff⟩,
    fun s m v hknows => count_answers hknows, ?_, ?_, ?_, ?_, ?_⟩
  · intro s s' v w hv hw hle hleast
    obtain ⟨m, v', ⟨hm, hv'⟩, hupto⟩ := atLeast_iff.mp hleast
    obtain rfl : v = v' := Option.some_inj.mp (hv.symm.trans hv')
    exact atLeast_iff.mpr ⟨m, w, ⟨hm, hw⟩, hle.trans hupto⟩
  · intro s s' hrange
    obtain ⟨hleast, hmost⟩ := inRange_iff.mp hrange
    obtain ⟨m, v, ⟨hm, hv⟩, hbelow⟩ := atLeast_iff.mp hleast
    obtain ⟨m', w, ⟨hm', hw⟩, habove⟩ := atMost_iff.mp hmost
    obtain rfl : m = m' := Option.some_inj.mp (hm.symm.trans hm')
    exact ⟨v, w, hv, hw, hbelow.trans habove⟩
  · intro s hunknown
    have hno {p : Ordering → Bool} : (g.order? s).any p = false := by
      rw [← Bool.not_eq_true, any_order?_iff]
      rintro ⟨m, v, hknows, -⟩
      exact hunknown m v hknows
    have hleast : g.atLeast s = false := hno
    have hmost : g.atMost s = false := hno
    refine ⟨hleast, hno, hmost, hno, fun s' => ⟨?_, ?_⟩⟩
    · rw [inRange, hleast, Bool.false_and]
    · rw [inRange, hmost, Bool.and_false]
  · intro hnone major minor
    rw [isVersion, hnone]
  · intro m hm
    obtain ⟨t, ht⟩ := h.exists_ofText? hm
    have htext : g.toText = m.toText := by rw [toText, hm]; rfl
    have hback : ofText? g.toText.toList = some m := by
      rw [htext]
      exact ofText?_toText (lt_of_ofText? ht)
    exact ⟨hback, atLeast_iff.mpr ⟨m, m, ⟨hm, hback⟩, .refl m⟩,
      atMost_iff.mpr ⟨m, m, ⟨hm, hback⟩, .refl m⟩⟩

/-- A spelling with blanks, a sign, an underscore and a digit of another script: what is detected is
written plainly, and reached. -/
theorem answers_by_order_spelled :
    (ofString (some " +1_0.٣.0 ") "engine").IsMade ∧
    ofText? "10.3.0".toList = some ⟨[10, 3, 0], by decide, by decide⟩ ∧
    (ofString (some " +1_0.٣.0 ") "engine").atLeast "10.3.0" = true := by
  have hdetected : (ofString (some " +1_0.٣.0 ") "engine").detected =
      some ⟨[10, 3, 0], by decide, by decide⟩ := by decide +kernel
  have htext : (ofString (some " +1_0.٣.0 ") "engine").toText = "10.3.0" := by decide +kernel
  have hmade : (ofString (some " +1_0.٣.0 ") "engine").IsMade := .ofString _ _
  obtain ⟨-, -, -, -, -, -, hown⟩ := answers_by_order hmade
  obtain ⟨hread, hleast, -⟩ := hown _ hdetected
  rw [htext] at hread hleast
  exact ⟨hmade, hread, hleast⟩

end VersionGate

end Assay
