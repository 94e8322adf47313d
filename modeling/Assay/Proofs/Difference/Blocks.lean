import Assay.Proofs.Difference.Hunks
import Mathlib.Order.Bounds.Basic

/-!
# Blocks describe a difference completely

The blocks of two texts number their lines so that nothing else is left to say (`blocks_describe`):
without the lines that are numbered the two texts are the same, and the numbers of a block are
consecutive, ascend from block to block, and leave out a line between any two blocks. The texts are
in hunks, so all of this is shown along a list of hunks.
-/

namespace Assay.Difference

/-- The numbers of the lines that a block has on a side. -/
def Block.numbers (b : Block) (c : Change) : List Nat :=
  (b.entries.filter fun e => e.change = c).map Entry.number

/-- The numbers of the lines that blocks have on a side. -/
def numbers (c : Change) (blocks : List Block) : List Nat := blocks.flatMap (·.numbers c)

/-- The lines without those that have some numbers, where the first line has the number `first`. -/
def without (first : Nat) (lines : List Line) (numbers : List Nat) : List Line :=
  ((lines.zipIdx first).filter fun line => line.2 ∉ numbers).map Prod.fst

/-- Blocks describe completely what differs between the lines of two sides. -/
structure Describes (lines : Change → List Line) (blocks : List Block) : Prop where
  /-- Without the lines that are numbered, nothing differs. -/
  rest_same : without 1 (lines .removed) (numbers .removed blocks)
    = without 1 (lines .added) (numbers .added blocks)
  nonempty : ∀ b ∈ blocks, b.entries ≠ []
  removed_first : ∀ b ∈ blocks, b.entries.filter (fun e => e.change = .removed)
    ++ b.entries.filter (fun e => e.change = .added) = b.entries
  consecutive : ∀ b ∈ blocks, ∀ c, ∃ first count, b.numbers c = List.range' first count
  ascending : ∀ c, (numbers c blocks).Pairwise (· < ·)
  /-- Between two blocks there is a line that both sides have, in the same place of what they have
  in common. -/
  between : ∀ before b b' after, blocks = before ++ b :: b' :: after →
    ∃ (place : Change → Nat) (line : Line),
      (∀ c, (lines c)[place c]? = some line ∧
        (∀ n ∈ numbers c (before ++ [b]), n < place c + 1) ∧
        ∀ n ∈ numbers c (b' :: after), place c + 1 < n) ∧
      without 1 ((lines .removed).take (place .removed)) (numbers .removed blocks)
        = without 1 ((lines .added).take (place .added)) (numbers .added blocks)
  shown : ∀ b ∈ blocks, ∀ e ∈ b.entries, ∃ i line, e.number = i + 1 ∧
    (lines e.change)[i]? = some line ∧ e.shown = line.visible
  first_line : ∀ b ∈ blocks, IsLeast
    {n | n ∈ b.numbers (if b.numbers .removed = [] then .added else .removed)} b.firstLine

variable {c : Change} {h : Hunk} {hunks hunks' : List Hunk} {first : Change → Nat} {n : Nat}

/-! ## Entries -/

theorem map_number_entriesFrom (c : Change) (n : Nat) (lines : List Line) :
    (entriesFrom c n lines).map Entry.number = List.range' n lines.length := by
  rw [entriesFrom, List.map_map]
  exact List.zipIdx_map_snd n lines

theorem exists_of_mem_entriesFrom {lines : List Line} {e : Entry}
    (he : e ∈ entriesFrom c n lines) :
    ∃ i line, e.number = n + i ∧ lines[i]? = some line ∧ e.shown = line.visible := by
  obtain ⟨⟨line, m⟩, hmem, rfl⟩ := List.mem_map.mp he
  obtain ⟨hle, hline⟩ := List.mk_mem_zipIdx_iff_le_and_getElem?_sub.mp hmem
  exact ⟨m - n, line, (Nat.add_sub_cancel' hle).symm, hline, rfl⟩

theorem change_of_mem_entriesFrom {lines : List Line} {e : Entry}
    (he : e ∈ entriesFrom c n lines) : e.change = c := by
  obtain ⟨line, -, rfl⟩ := List.mem_map.mp he
  rfl

/-- The entries of a block on a side. -/
theorem filter_entries_block (h : Hunk) (first : Change → Nat) (c : Change) :
    (h.block first).entries.filter (fun e => e.change = c)
      = entriesFrom c (first c) (h.changed c) := by
  have hall (c : Change) (n : Nat) (lines : List Line) :
      (entriesFrom c n lines).filter (fun e => e.change = c) = entriesFrom c n lines :=
    List.filter_eq_self.mpr fun e he => decide_eq_true (change_of_mem_entriesFrom he)
  have hnone {c c' : Change} (hne : c' ≠ c) (n : Nat) (lines : List Line) :
      (entriesFrom c' n lines).filter (fun e => e.change = c) = [] :=
    List.filter_eq_nil_iff.mpr fun e he => by simp [change_of_mem_entriesFrom he, hne]
  rw [Block.entries, Hunk.block, List.filter_append]
  cases c with
  | removed => rw [hall, hnone (by decide), List.append_nil]; rfl
  | added => rw [hall, hnone (by decide), List.nil_append]; rfl

theorem numbers_block (h : Hunk) (first : Change → Nat) (c : Change) :
    (h.block first).numbers c = List.range' (first c) (h.changed c).length := by
  rw [Block.numbers, filter_entries_block, map_number_entriesFrom]

/-! ## Numbers -/

theorem numbers_cons (b : Block) (blocks : List Block) :
    numbers c (b :: blocks) = b.numbers c ++ numbers c blocks := rfl

theorem numbers_append (blocks blocks' : List Block) :
    numbers c (blocks ++ blocks') = numbers c blocks ++ numbers c blocks' :=
  List.flatMap_append

theorem numbers_blocksFrom_cons (h : Hunk) (hunks : List Hunk) (first : Change → Nat) :
    numbers c (blocksFrom first (h :: hunks)) = List.range' (first c) (h.changed c).length
      ++ numbers c (blocksFrom (h.next first) hunks) := by
  rw [blocksFrom, numbers_cons, numbers_block]

theorem length_lines (h : Hunk) (c : Change) :
    (h.lines c).length = (h.changed c).length + h.same.length :=
  List.length_append

/-- The numbers of hunks are those of their lines. -/
theorem bounds_of_mem_numbers (hn : n ∈ numbers c (blocksFrom first hunks)) :
    first c ≤ n ∧ n < first c + (text c hunks).length := by
  induction hunks generalizing first with
  | nil => cases hn
  | cons h hunks ih =>
    rw [text_cons, List.length_append, length_lines]
    rw [numbers_blocksFrom_cons, List.mem_append, List.mem_range'_1] at hn
    rcases hn with hn | hn
    · omega
    · have hrest := ih hn
      rw [Hunk.next, length_lines] at hrest
      omega

theorem pairwise_numbers (first : Change → Nat) (hunks : List Hunk) :
    (numbers c (blocksFrom first hunks)).Pairwise (· < ·) := by
  induction hunks generalizing first with
  | nil => exact List.Pairwise.nil
  | cons h hunks ih =>
    rw [numbers_blocksFrom_cons]
    refine List.pairwise_append.mpr ⟨List.pairwise_lt_range', ih _, fun n hn m hm => ?_⟩
    have hrest := (bounds_of_mem_numbers hm).1
    rw [Hunk.next, length_lines] at hrest
    rw [List.mem_range'_1] at hn
    omega

/-! ## What is left -/

section Without

variable {lines lines' : List Line} {numbers : List Nat}

theorem without_append (n : Nat) (lines lines' : List Line) (numbers : List Nat) :
    without n (lines ++ lines') numbers
      = without n lines numbers ++ without (n + lines.length) lines' numbers := by
  simp only [without, List.zipIdx_append, List.filter_append, List.map_append]

theorem without_of_forall_mem (h : ∀ m, n ≤ m → m < n + lines.length → m ∈ numbers) :
    without n lines numbers = [] := by
  rw [without, List.map_eq_nil_iff, List.filter_eq_nil_iff]
  rintro ⟨line, m⟩ hmem
  obtain ⟨hle, hlt, -⟩ := List.mem_zipIdx hmem
  simpa using h m hle hlt

theorem without_of_forall_notMem (h : ∀ m, n ≤ m → m < n + lines.length → m ∉ numbers) :
    without n lines numbers = lines := by
  rw [without, List.filter_eq_self.mpr, List.zipIdx_map_fst]
  rintro ⟨line, m⟩ hmem
  obtain ⟨hle, hlt, -⟩ := List.mem_zipIdx hmem
  simpa using h m hle hlt

end Without

/-- What is left of hunks is what is the same in them. -/
theorem without_text (hunks : List Hunk) (first : Change → Nat) {ns : List Nat}
    (hns : ∀ n, first c ≤ n → n < first c + (text c hunks).length →
      (n ∈ ns ↔ n ∈ numbers c (blocksFrom first hunks))) :
    without (first c) (text c hunks) ns = hunks.flatMap Hunk.same := by
  induction hunks generalizing first with
  | nil => rfl
  | cons h hunks ih =>
    rw [text_cons, List.length_append, length_lines] at hns
    simp only [numbers_blocksFrom_cons, List.mem_append, List.mem_range'_1] at hns
    have hnext : h.next first c = first c + (h.changed c).length + h.same.length := by
      rw [Hunk.next, length_lines, Nat.add_assoc]
    have hrest := ih (h.next first) fun n hle hlt => by
      rw [hns n (by omega) (by omega)]
      exact or_iff_right (by omega)
    rw [hnext] at hrest
    rw [text_cons, Hunk.lines, without_append, without_append, List.length_append, ← Nat.add_assoc,
      hrest, without_of_forall_mem, without_of_forall_notMem, List.nil_append, List.flatMap_cons]
    · intro m hle hlt hm
      rcases (hns m (by omega) (by omega)).mp hm with hm | hm
      · omega
      · have := (bounds_of_mem_numbers hm).1
        omega
    · intro m hle hlt
      exact (hns m hle (by omega)).mpr (Or.inl ⟨hle, hlt⟩)

/-- So it is behind lines that are the same. -/
theorem without_front_text (front : List Line) (hunks : List Hunk) {ns : List Nat}
    (hns : ∀ n ≤ front.length + (text c hunks).length,
      n ∈ ns ↔ n ∈ numbers c (blocksFrom (fun _ => front.length + 1) hunks)) :
    without 1 (front ++ text c hunks) ns = front ++ hunks.flatMap Hunk.same := by
  have htext : without (front.length + 1) (text c hunks) ns = hunks.flatMap Hunk.same :=
    without_text hunks (fun _ => front.length + 1) fun n _ hlt => hns n (by omega)
  rw [without_append, Nat.add_comm 1, htext, without_of_forall_notMem]
  intro m _ hlt hm
  have hbound := (bounds_of_mem_numbers ((hns m (by omega)).mp hm)).1
  omega

/-! ## Blocks in order -/

theorem blocksFrom_append (first : Change → Nat) (hunks hunks' : List Hunk) :
    blocksFrom first (hunks ++ hunks') = blocksFrom first hunks
      ++ blocksFrom (fun c => first c + (text c hunks).length) hunks' := by
  induction hunks generalizing first with
  | nil => rfl
  | cons h hunks ih =>
    have hnext : (fun c => h.next first c + (text c hunks).length)
        = fun c => first c + (text c (h :: hunks)).length := by
      funext c
      rw [Hunk.next, text_cons, List.length_append, Nat.add_assoc]
    rw [List.cons_append, blocksFrom, ih, hnext, blocksFrom, List.cons_append]

theorem length_blocksFrom (first : Change → Nat) (hunks : List Hunk) :
    (blocksFrom first hunks).length = hunks.length := by
  induction hunks generalizing first with
  | nil => rfl
  | cons h hunks ih => exact congrArg (· + 1) (ih _)

/-- Where blocks are cut in two, so are the hunks. -/
theorem exists_append_of_blocksFrom {before after : List Block}
    (h : blocksFrom first hunks = before ++ after) : ∃ hunks₁ hunks₂, hunks = hunks₁ ++ hunks₂ ∧
      before = blocksFrom first hunks₁ ∧
      after = blocksFrom (fun c => first c + (text c hunks₁).length) hunks₂ := by
  refine ⟨hunks.take before.length, hunks.drop before.length,
    (List.take_append_drop before.length hunks).symm, ?_⟩
  have hlength : (blocksFrom first (hunks.take before.length)).length = before.length := by
    have hall := congrArg List.length h
    rw [length_blocksFrom, List.length_append] at hall
    rw [length_blocksFrom, List.length_take]
    omega
  rw [← List.take_append_drop before.length hunks, blocksFrom_append] at h
  obtain ⟨hbefore, hafter⟩ := List.append_inj h hlength
  exact ⟨hbefore.symm, hafter.symm⟩

theorem exists_mem_of_mem_blocksFrom {b : Block} (hb : b ∈ blocksFrom first hunks) :
    ∃ h ∈ hunks, ∃ first', b = h.block first' := by
  induction hunks generalizing first with
  | nil => cases hb
  | cons h hunks ih =>
    rcases List.mem_cons.mp hb with rfl | hb
    · exact ⟨h, List.mem_cons_self, first, rfl⟩
    · obtain ⟨h', hh', hblock⟩ := ih hb
      exact ⟨h', List.mem_cons_of_mem h hh', hblock⟩

/-! ## Single blocks -/

/-- An entry shows the line that it numbers. -/
theorem shown_of_mem_blocksFrom {b : Block} (hb : b ∈ blocksFrom first hunks) {e : Entry}
    (he : e ∈ b.entries) : ∃ i line, e.number = first e.change + i ∧
      (text e.change hunks)[i]? = some line ∧ e.shown = line.visible := by
  induction hunks generalizing first with
  | nil => cases hb
  | cons h hunks ih =>
    rcases List.mem_cons.mp hb with rfl | hb
    · have hmem : e ∈ entriesFrom e.change (first e.change) (h.changed e.change) := by
        rw [← filter_entries_block]
        exact List.mem_filter.mpr ⟨he, decide_eq_true rfl⟩
      obtain ⟨i, line, hnumber, hline, hshown⟩ := exists_of_mem_entriesFrom hmem
      refine ⟨i, line, hnumber, ?_, hshown⟩
      rw [text_cons, Hunk.lines, List.append_assoc, List.getElem?_append_left]
      · exact hline
      · exact (List.getElem?_eq_some_iff.mp hline).1
    · obtain ⟨i, line, hnumber, hline, hshown⟩ := ih hb
      refine ⟨(h.lines e.change).length + i, line, ?_, ?_, hshown⟩
      · rw [hnumber, Hunk.next, Nat.add_assoc]
      · rw [text_cons, List.getElem?_append_right (Nat.le_add_right _ _), Nat.add_sub_cancel_left]
        exact hline

theorem isLeast_range' {count : Nat} (h : count ≠ 0) :
    IsLeast {m | m ∈ List.range' n count} n := by
  refine ⟨List.mem_range'_1.mpr ⟨Nat.le_refl n, by omega⟩, fun m hm => ?_⟩
  exact (List.mem_range'_1.mp hm).1

/-- A block is headed by the least of its numbers. -/
theorem isLeast_firstLine (hchanged : ∃ c, h.changed c ≠ []) (first : Change → Nat) :
    IsLeast {n | n ∈ (h.block first).numbers
      (if (h.block first).numbers .removed = [] then .added else .removed)}
      (h.block first).firstLine := by
  simp only [numbers_block, List.range'_eq_nil_iff, List.length_eq_zero_iff]
  obtain ⟨removed, added, same⟩ := h
  cases removed with
  | cons line removed => exact isLeast_range' (Nat.succ_ne_zero removed.length)
  | nil =>
    cases added with
    | cons line added => exact isLeast_range' (Nat.succ_ne_zero added.length)
    | nil =>
      obtain ⟨c, hc⟩ := hchanged
      cases c <;> exact absurd rfl hc

/-! ## Lines between blocks -/

theorem text_append (c : Change) (hunks hunks' : List Hunk) :
    text c (hunks ++ hunks') = text c hunks ++ text c hunks' :=
  List.flatMap_append

/-- Hunks in front of others end with a line that both sides have, which their blocks do not see. -/
theorem exists_last_same (hapart : Apart (hunks ++ hunks')) (hsome : hunks ≠ [])
    (hsome' : hunks' ≠ []) : ∃ before line, (∀ c, text c hunks = text c before ++ [line]) ∧
      ∀ first, blocksFrom first hunks = blocksFrom first before := by
  obtain ⟨hunks, h, rfl⟩ := (List.eq_nil_or_concat hunks).resolve_left hsome
  obtain ⟨h', hunks', rfl⟩ := List.exists_cons_of_ne_nil hsome'
  rw [List.concat_eq_append] at hapart ⊢
  rw [List.append_assoc, List.singleton_append] at hapart
  have hsame : h.same ≠ [] := (List.isChain_append_cons_cons.mp hapart.between).2.1
  obtain ⟨same, line, hsplit⟩ := (List.eq_nil_or_concat h.same).resolve_left hsame
  refine ⟨hunks ++ [{ h with same := same }], line, fun c => ?_, fun first => ?_⟩
  · have hlines : h.lines c = Hunk.lines { h with same := same } c ++ [line] := by
      rw [Hunk.lines, hsplit, List.concat_eq_append, ← List.append_assoc]
      rfl
    simp only [text_append, text_cons, text_nil, hlines, List.append_nil, List.append_assoc]
  · rw [blocksFrom_append, blocksFrom_append]
    rfl

/-- Where blocks that are apart are cut in two, there is a line that both sides have. -/
theorem exists_line_between {lines : Change → List Line} {front : List Line}
    (hapart : Apart hunks) (hlines : ∀ c, lines c = front ++ text c hunks)
    {earlier later : List Block}
    (hsplit : blocksFrom (fun _ => front.length + 1) hunks = earlier ++ later)
    (hearlier : earlier ≠ []) (hlater : later ≠ []) :
    ∃ (place : Change → Nat) (line : Line),
      (∀ c, (lines c)[place c]? = some line ∧ (∀ n ∈ numbers c earlier, n < place c + 1) ∧
        ∀ n ∈ numbers c later, place c + 1 < n) ∧
      without 1 ((lines .removed).take (place .removed)) (numbers .removed (earlier ++ later))
        = without 1 ((lines .added).take (place .added)) (numbers .added (earlier ++ later)) := by
  obtain ⟨hunks, hunks', rfl, rfl, rfl⟩ := exists_append_of_blocksFrom hsplit
  obtain ⟨before, line, htext, hblocks⟩ := exists_last_same hapart
    (fun hnone => hearlier (by rw [hnone]; rfl)) (fun hnone => hlater (by rw [hnone]; rfl))
  simp only [hblocks, htext]
  have hcut (c : Change) : lines c = (front ++ text c before) ++ line :: text c hunks' := by
    rw [hlines, text_append, htext]
    simp only [List.append_assoc, List.singleton_append]
  have habove {c : Change} {n : Nat} (hn : n ∈ numbers c (blocksFrom
      (fun c => front.length + 1 + (text c before ++ [line]).length) hunks')) :
      (front ++ text c before).length + 1 < n := by
    have hbound := (bounds_of_mem_numbers hn).1
    rw [List.length_append, List.length_singleton] at hbound
    rw [List.length_append]
    omega
  have hrest (c : Change) : without 1 ((lines c).take (front ++ text c before).length)
      (numbers c (blocksFrom (fun _ => front.length + 1) before ++ blocksFrom
        (fun c => front.length + 1 + (text c before ++ [line]).length) hunks'))
        = front ++ before.flatMap Hunk.same := by
    rw [hcut, List.take_left]
    refine without_front_text front before fun n hn => ?_
    rw [numbers_append, List.mem_append]
    refine or_iff_left fun hmem => absurd (habove hmem) ?_
    rw [List.length_append]
    omega
  refine ⟨fun c => (front ++ text c before).length, line, fun c => ⟨?_, ?_, ?_⟩, ?_⟩
  · rw [hcut c, List.getElem?_append_right (Nat.le_refl _), Nat.sub_self]
    rfl
  · intro n hn
    have hbound := (bounds_of_mem_numbers hn).2
    show n < (front ++ text c before).length + 1
    rw [List.length_append]
    omega
  · exact fun n hn => habove hn
  · rw [hrest, hrest]

/-! ## The description -/

theorem describes_blocksFrom {lines : Change → List Line} {front : List Line}
    (hapart : Apart hunks) (hlines : ∀ c, lines c = front ++ text c hunks) :
    Describes lines (blocksFrom (fun _ => front.length + 1) hunks) where
  rest_same := by
    rw [hlines, hlines, without_front_text front hunks fun _ _ => Iff.rfl,
      without_front_text front hunks fun _ _ => Iff.rfl]
  nonempty := by
    intro b hb
    obtain ⟨h, hh, first, rfl⟩ := exists_mem_of_mem_blocksFrom hb
    obtain ⟨c, hc⟩ := hapart.changed h hh
    intro hnone
    have hentries := filter_entries_block h first c
    rw [hnone] at hentries
    exact hc (entriesFrom_eq_nil_iff.mp hentries.symm)
  removed_first := by
    intro b hb
    obtain ⟨h, -, first, rfl⟩ := exists_mem_of_mem_blocksFrom hb
    rw [filter_entries_block, filter_entries_block]
    rfl
  consecutive := by
    intro b hb c
    obtain ⟨h, -, first, rfl⟩ := exists_mem_of_mem_blocksFrom hb
    exact ⟨_, _, numbers_block h first c⟩
  ascending c := pairwise_numbers _ hunks
  between := by
    intro before b b' after hsplit
    rw [List.append_cons] at hsplit
    rw [hsplit]
    exact exists_line_between hapart hlines hsplit (by simp) (by simp)
  shown := by
    intro b hb e he
    obtain ⟨i, line, hnumber, hline, hshown⟩ := shown_of_mem_blocksFrom hb he
    refine ⟨front.length + i, line, by omega, ?_, hshown⟩
    rw [hlines, List.getElem?_append_right (Nat.le_add_right _ _), Nat.add_sub_cancel_left]
    exact hline
  first_line := by
    intro b hb
    obtain ⟨h, hh, first, rfl⟩ := exists_mem_of_mem_blocksFrom hb
    exact isLeast_firstLine (hapart.changed h hh) first

/-- An entry shows the line that it numbers in its text. -/
theorem exists_line_of_mem_blocks {actual expected : Text} {b : Block}
    (hb : b ∈ blocks actual expected) {e : Entry} (he : e ∈ b.entries) : ∃ i line,
      e.number = i + 1 ∧
        (sides (Line.split expected) (Line.split actual) e.change)[i]? = some line ∧
        e.shown = line.visible := by
  obtain ⟨front, hunks, hapart, hlines, hblocks⟩ := exists_hunks actual expected
  rw [hblocks] at hb
  exact (describes_blocksFrom hapart hlines).shown b hb e he

/-- **The blocks of two texts describe completely what differs between their lines.** -/
theorem blocks_describe (actual expected : Text) :
    Describes (sides (Line.split expected) (Line.split actual)) (blocks actual expected) := by
  obtain ⟨front, hunks, hapart, hlines, hblocks⟩ := exists_hunks actual expected
  rw [hblocks]
  exact describes_blocksFrom hapart hlines

end Assay.Difference
