import Assay.Location
import Assay.Proofs.Numbers.Digits

/-!
# Locations tell spans

The line of an offset is the last one that starts at or before it, and the column counts on from
there; so a position can be read back (`Position.Points`), and positions are in the order of their
offsets (`Position.Points.order_eq`). This rests on the starts of lines being strictly ascending
from zero. A report shows both ends of a span in decimal numbers, each ended by a character that is
no digit, so that what it shows tells the span (`ofSpan_tells_span`).
-/

namespace Assay

/-! ## Where lines start -/

theorem pairwise_startsAfter (offset : Nat) (t : Text) :
    (startsAfter offset t).Pairwise (· < ·) := by
  fun_induction startsAfter offset t with
  | case1 => exact .nil
  | case2 _ _ ih | case3 _ _ _ ih | case4 _ _ ih =>
    exact List.pairwise_cons.mpr ⟨fun _ h => lt_of_mem_startsAfter h, ih⟩
  | case5 _ _ _ _ _ _ ih => exact ih

/-- Each line starts behind the one before it. -/
theorem pairwise_lineStarts (t : Text) : (lineStarts t).Pairwise (· < ·) :=
  List.pairwise_cons.mpr ⟨fun _ h => lt_of_mem_startsAfter h, pairwise_startsAfter 0 t⟩

/-! ## Positions among line starts -/

section Passed

variable {starts : List Nat} {offset : Nat}

theorem passed_cons_of_lt {start : Nat} (h : (start :: starts).Pairwise (· < ·))
    (hlt : offset < start) : (start :: starts).filter (· ≤ offset) = [] := by
  rw [List.filter_eq_nil_iff]
  intro other hother
  have hbehind : start ≤ other := by
    rcases List.mem_cons.mp hother with rfl | hother
    · exact Nat.le_refl _
    · exact Nat.le_of_lt (List.rel_of_pairwise_cons h hother)
  simp only [decide_eq_true_eq]
  omega

/-- The starts up to an offset are the first ones. -/
theorem passed_eq_take (h : starts.Pairwise (· < ·)) :
    starts.filter (· ≤ offset) = starts.take (starts.filter (· ≤ offset)).length := by
  induction starts with
  | nil => rfl
  | cons start starts ih =>
    by_cases hle : start ≤ offset
    · rw [List.filter_cons_of_pos (by simpa using hle), List.length_cons, List.take_succ_cons,
        ← ih h.of_cons]
    · rw [passed_cons_of_lt h (Nat.lt_of_not_le hle)]
      rfl

/-- As many starts are up to an offset as there are indices of such starts. -/
theorem le_iff_lt_length_passed (h : starts.Pairwise (· < ·)) {k start : Nat}
    (hk : starts[k]? = some start) :
    start ≤ offset ↔ k < (starts.filter (· ≤ offset)).length := by
  induction starts generalizing k with
  | nil => simp at hk
  | cons first starts ih =>
    by_cases hle : first ≤ offset
    · rw [List.filter_cons_of_pos (by simpa using hle), List.length_cons]
      cases k with
      | zero =>
        obtain rfl : first = start := by simpa using hk
        exact iff_of_true hle (Nat.succ_pos _)
      | succ k => rw [ih h.of_cons hk, Nat.succ_lt_succ_iff]
    · rw [passed_cons_of_lt h (Nat.lt_of_not_le hle)]
      have hbehind : first ≤ start := by
        rcases List.mem_cons.mp (List.mem_of_getElem? hk) with rfl | hstart
        · exact Nat.le_refl _
        · exact Nat.le_of_lt (List.rel_of_pairwise_cons h hstart)
      exact iff_of_false (by omega) (Nat.not_lt_zero _)

end Passed

namespace Position

/-- The order of positions: by their lines, and on one line by their columns. -/
def order (p q : Position) : Ordering := (compare p.line q.line).then (compare p.column q.column)

/-- Whether a position is that of an offset, where some lines start: the line is the last one that
starts at or before the offset, and the column counts from its start. -/
structure Points (p : Position) (starts : List Nat) (offset : Nat) : Prop where
  one_le_line : 1 ≤ p.line
  line_le : p.line ≤ starts.length
  one_le_column : 1 ≤ p.column
  counts : ∃ start, starts[p.line - 1]? = some start ∧ start + p.column - 1 = offset
  last : ∀ k start, starts[k]? = some start → (start ≤ offset ↔ k < p.line)

variable {starts : List Nat} {p q : Position} {a b : Nat}

/-- **The position of an offset is found among the starts of lines.** -/
theorem points_ofOffset (h : (0 :: starts).Pairwise (· < ·)) (offset : Nat) :
    (ofOffset (0 :: starts) offset).Points (0 :: starts) offset := by
  have htake := @passed_eq_take _ offset h
  have hlast (k start : Nat) (hk : (0 :: starts)[k]? = some start) :=
    @le_iff_lt_length_passed _ offset h k start hk
  -- the first line starts at or before every offset
  have hpos : 0 < ((0 :: starts).filter (· ≤ offset)).length :=
    (hlast 0 0 rfl).mp (Nat.zero_le _)
  have hlen : ((0 :: starts).filter (· ≤ offset)).length ≤ (0 :: starts).length :=
    List.length_filter_le _ _
  unfold ofOffset
  dsimp only
  generalize ((0 :: starts).filter (· ≤ offset)).length = line at *
  obtain ⟨start, hstart⟩ : ∃ start, (0 :: starts)[line - 1]? = some start :=
    ⟨_, List.getElem?_eq_getElem (by omega)⟩
  have hle : start ≤ offset := (hlast _ _ hstart).mpr (by omega)
  have hgetLast : ((0 :: starts).filter (· ≤ offset)).getLastD 0 = start := by
    rw [htake, List.getLastD_eq_getLast?, List.getLast?_take, if_neg (by omega), hstart]
    rfl
  rw [hgetLast]
  exact ⟨hpos, hlen, Nat.succ_pos _, ⟨start, hstart, by dsimp only; omega⟩, hlast⟩

theorem Points.line_le_of_le (hp : p.Points starts a) (hq : q.Points starts b) (h : a ≤ b) :
    p.line ≤ q.line := by
  obtain ⟨start, hstart, -⟩ := hp.counts
  have hline := hp.one_le_line
  have hbefore : start ≤ a := (hp.last _ _ hstart).mpr (by omega)
  have hpassed := (hq.last _ _ hstart).mp (Nat.le_trans hbefore h)
  omega

/-- On one line, columns differ as offsets do. -/
theorem Points.column_add (hp : p.Points starts a) (hq : q.Points starts b)
    (h : p.line = q.line) : p.column + b = q.column + a := by
  obtain ⟨start, hstart, hcolumn⟩ := hp.counts
  obtain ⟨start', hstart', hcolumn'⟩ := hq.counts
  rw [h, hstart', Option.some.injEq] at hstart
  have hone := hp.one_le_column
  have hone' := hq.one_le_column
  omega

/-- **Positions are in the order of their offsets.** -/
theorem Points.order_eq (hp : p.Points starts a) (hq : q.Points starts b) :
    p.order q = compare a b := by
  have hle := hp.line_le_of_le hq
  have hge := hq.line_le_of_le hp
  unfold order
  rcases Nat.lt_trichotomy p.line q.line with hlt | heq | hgt
  · have hab : a < b := by omega
    rw [Nat.compare_eq_lt.mpr hlt, Nat.compare_eq_lt.mpr hab]
    rfl
  · have hcolumn := hp.column_add hq heq
    rw [Nat.compare_eq_eq.mpr heq, Ordering.eq_then]
    rcases Nat.lt_trichotomy a b with hab | hab | hab
    · rw [Nat.compare_eq_lt.mpr hab, Nat.compare_eq_lt.mpr (by omega)]
    · rw [Nat.compare_eq_eq.mpr hab, Nat.compare_eq_eq.mpr (by omega)]
    · rw [Nat.compare_eq_gt.mpr hab, Nat.compare_eq_gt.mpr (by omega)]
  · have hab : b < a := by omega
    rw [Nat.compare_eq_gt.mpr hgt, Nat.compare_eq_gt.mpr hab]
    rfl

end Position

/-! ## What a report shows -/

namespace Location

/-- A place with both ends, as a text. -/
theorem toList_toText (file : String) (start stop : Position) :
    (Location.mk file start (some stop)).toText.toList
      = file.toList ++ '(' :: (Nat.toDigits 10 start.line ++ ',' :: (Nat.toDigits 10 start.column
        ++ ')' :: '-' :: '(' :: (Nat.toDigits 10 stop.line ++ ',' :: (Nat.toDigits 10 stop.column
          ++ [')'])))) := by
  simp [toText]

/-- In one file, what is shown tells both ends. -/
theorem toText_inj {file : String} {start stop start' stop' : Position}
    (h : (Location.mk file start (some stop)).toText
      = (Location.mk file start' (some stop')).toText) : start = start' ∧ stop = stop' := by
  have hlist := congrArg String.toList h
  rw [toList_toText, toList_toText, List.append_cancel_left_eq, List.cons.injEq] at hlist
  obtain ⟨hline, hlist⟩ := digits_append_cons_inj (by decide) hlist.2
  obtain ⟨hcolumn, hlist⟩ := digits_append_cons_inj (by decide) hlist
  rw [List.cons.injEq, List.cons.injEq] at hlist
  obtain ⟨hline', hlist⟩ := digits_append_cons_inj (by decide) hlist.2.2
  obtain ⟨hcolumn', -⟩ := digits_append_cons_inj (by decide) hlist
  obtain ⟨l, c⟩ := start
  obtain ⟨l', c'⟩ := stop
  simp_all

/-- **Locations tell spans.** The ends of a span are shown by the last line that starts at or before
them and by the column on it. Positions are in the order of their offsets, so that in one text and
file different spans are never shown alike. -/
theorem ofSpan_tells_span (t : Text) (file : String) :
    (∀ s, ∃ start stop, ofSpan t s file = ⟨file, start, some stop⟩ ∧
      start.Points (lineStarts t) s.start ∧ stop.Points (lineStarts t) s.stop) ∧
    (∀ a b, (Position.ofOffset (lineStarts t) a).order (Position.ofOffset (lineStarts t) b)
      = compare a b) ∧
    Function.Injective fun s => (ofSpan t s file).toText := by
  have hpoints (offset : Nat) :
      (Position.ofOffset (lineStarts t) offset).Points (lineStarts t) offset :=
    Position.points_ofOffset (pairwise_lineStarts t) offset
  have horder (a b : Nat) := (hpoints a).order_eq (hpoints b)
  refine ⟨fun s => ⟨_, _, rfl, hpoints s.start, hpoints s.stop⟩, horder, ?_⟩
  intro s s' h
  obtain ⟨hstart, hstop⟩ := toText_inj h
  -- equal positions are those of equal offsets
  have heq {a b : Nat} (hab : Position.ofOffset (lineStarts t) a
      = Position.ofOffset (lineStarts t) b) : a = b := by
    rw [← Nat.compare_eq_eq, ← horder a b, hab, horder b b, Nat.compare_eq_eq]
  have hfirst := heq hstart
  have hlast := heq hstop
  obtain ⟨first, length⟩ := s
  obtain ⟨first', length'⟩ := s'
  simp only [Span.stop_mk] at hfirst hlast
  rw [Span.mk.injEq]
  omega

end Location

end Assay
