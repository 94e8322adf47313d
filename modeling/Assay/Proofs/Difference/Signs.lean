import Assay.Proofs.Difference.Layout

/-!
# Signs in a report

Blanks and line endings are shown by signs, and a character that is a sign is shown as it is. So two
texts look the same exactly if they are the same but for places where one has a sign and the other
what the sign stands for (`visible_eq_iff`). No more than that is lost in a report
(`visible_eq_of_differenceReport_eq`): its entries can be read off its lines, all other lines of the
actual text are the expected ones, and so the report and the expected text tell how each line of the
actual text looks.
-/

namespace Assay

/-! ## Signs -/

/-- What a sign stands for, as the legend of a report says it. -/
inductive StandsFor : Char → Char → Prop where
  | space : StandsFor '·' ' '
  | tab : StandsFor '→' '\t'
  | carriageReturn : StandsFor '␍' '\r'
  | lineFeed : StandsFor '␊' '\n'

/-- Two texts that are not the same, but only in that at some places one has a sign and the other
what the sign stands for. -/
def DifferInSigns (t u : Text) : Prop :=
  t ≠ u ∧ List.Forall₂ (fun c d => c = d ∨ StandsFor c d ∨ StandsFor d c) t u

variable {c d : Char} {t u : Text}

theorem StandsFor.visibleChar_eq (h : StandsFor c d) : visibleChar c = visibleChar d := by
  cases h <;> rfl

theorem StandsFor.right_unique {s : Char} (h : StandsFor s c) (h' : StandsFor s d) : c = d := by
  cases h <;> cases h' <;> rfl

/-- A character is shown as it is or by the sign that stands for it. -/
theorem visibleChar_eq_self_or_standsFor (c : Char) :
    visibleChar c = c ∨ StandsFor (visibleChar c) c := by
  unfold visibleChar
  split
  · exact Or.inr .space
  · exact Or.inr .tab
  · exact Or.inr .carriageReturn
  · exact Or.inr .lineFeed
  · exact Or.inl rfl

theorem visibleChar_eq_iff :
    visibleChar c = visibleChar d ↔ c = d ∨ StandsFor c d ∨ StandsFor d c := by
  constructor
  · intro h
    rcases visibleChar_eq_self_or_standsFor c with hc | hc
    · rcases visibleChar_eq_self_or_standsFor d with hd | hd
      · exact Or.inl (hc.symm.trans (h.trans hd))
      · rw [← h, hc] at hd
        exact Or.inr (Or.inl hd)
    · rcases visibleChar_eq_self_or_standsFor d with hd | hd
      · rw [h, hd] at hc
        exact Or.inr (Or.inr hc)
      · rw [h] at hc
        exact Or.inl (hc.right_unique hd)
  · rintro (rfl | h | h)
    · rfl
    · exact h.visibleChar_eq
    · exact h.visibleChar_eq.symm

/-- **Two texts look the same if they are, or if they differ in signs.** -/
theorem visible_eq_iff : visible t = visible u ↔ t = u ∨ DifferInSigns t u := by
  have hlook : visible t = visible u
      ↔ List.Forall₂ (fun c d => c = d ∨ StandsFor c d ∨ StandsFor d c) t u := by
    simp only [← visibleChar_eq_iff]
    rw [visible, visible, ← List.forall₂_eq_eq_eq, List.forall₂_map_left_iff,
      List.forall₂_map_right_iff]
  rw [hlook, DifferInSigns]
  refine ⟨fun h => (Classical.em (t = u)).imp_right fun hne => ⟨hne, h⟩, ?_⟩
  rintro (rfl | h)
  · exact List.forall₂_same.mpr fun c _ => Or.inl rfl
  · exact h.2

/-! ## Lines -/

namespace Line

/-- A line is known by all of its characters. -/
theorem eq_of_toText_eq {line line' : Line} (h : Unbroken line.text) (h' : Unbroken line'.text)
    (htext : line.toText = line'.toText) : line = line' := by
  obtain ⟨t, ending⟩ := line
  obtain ⟨t', ending'⟩ := line'
  have htake {t : Text} (h : Unbroken t) (ending : LineEnding) :
      (t ++ ending.toText).takeWhile (!isLineBreak ·) = t := by
    rw [List.takeWhile_append_of_pos fun c hc => by rw [h c hc]; rfl]
    cases ending <;> simp [LineEnding.toText, isLineBreak]
  have hsame := congrArg (List.takeWhile (!isLineBreak ·)) htext
  obtain rfl : t = t' := by rwa [toText, toText, htake h, htake h'] at hsame
  have hending : ending.toText = ending'.toText := List.append_cancel_left htext
  cases ending <;> cases ending' <;> first | rfl | cases hending

/-- Different lines look the same exactly if they differ in signs. -/
theorem visible_eq_iff_differInSigns {line line' : Line} (h : Unbroken line.text)
    (h' : Unbroken line'.text) (hne : line ≠ line') :
    line.visible = line'.visible ↔ DifferInSigns line.toText line'.toText := by
  rw [Line.visible, Line.visible, visible_eq_iff]
  exact or_iff_right fun htext => hne (eq_of_toText_eq h h' htext)

theorem visible_unsplit (lines : List Line) :
    Assay.visible (unsplit lines) = (lines.map Line.visible).flatten := by
  rw [Assay.visible, unsplit, List.map_flatMap, List.flatMap_def]
  rfl

end Line

namespace Difference

/-! ## Reading a report -/

variable {actual actual' expected : Text}

theorem numbers_eq_map_number (c : Change) (blocks : List Block) : numbers c blocks
    = ((blocks.flatMap Block.entries).filter fun e => e.change = c).map Entry.number := by
  rw [List.filter_flatMap, List.map_flatMap]
  rfl

/-- The lines that are in no entry are the same in both texts. -/
theorem rest_same_blocks (actual expected : Text) :
    without 1 (Line.split expected) (numbers .removed (blocks actual expected))
      = without 1 (Line.split actual) (numbers .added (blocks actual expected)) := by
  obtain ⟨front, hunks, hapart, hlines, hblocks⟩ := exists_hunks actual expected
  rw [hblocks]
  exact (describes_blocksFrom hapart hlines).rest_same

theorem exists_line_of_mem_entries {e : Entry}
    (he : e ∈ (blocks actual expected).flatMap Block.entries) : ∃ line,
      (sides (Line.split expected) (Line.split actual) e.change)[e.number - 1]? = some line ∧
        e.shown = line.visible := by
  obtain ⟨b, hb, he⟩ := List.mem_flatMap.mp he
  obtain ⟨i, line, hnumber, hline, hshown⟩ := exists_line_of_mem_blocks hb he
  rw [hnumber, Nat.add_sub_cancel]
  exact ⟨line, hline, hshown⟩

/-- Texts with the same report have the same entries. -/
theorem entries_eq_of_differenceReport_eq
    (h : differenceReport actual expected = differenceReport actual' expected) :
    (blocks actual expected).flatMap Block.entries
      = (blocks actual' expected).flatMap Block.entries := by
  have hlines := entryLines_differenceReport actual expected
  rw [h, entryLines_differenceReport] at hlines
  refine (List.map_injective_iff.mpr ?_ hlines).symm
  intro e e' he
  exact toText_injective (String.toList_injective (Line.mk.inj he).1)

theorem without_cons (first : Nat) (line : Line) (lines : List Line) (ns : List Nat) :
    without first (line :: lines) ns
      = if first ∈ ns then without (first + 1) lines ns
        else line :: without (first + 1) lines ns := by
  by_cases h : first ∈ ns <;> simp [without, h]

/-- Lines look the same if they are the same without those that have some numbers, and if those look
the same. -/
theorem map_visible_eq {lines lines' : List Line} {ns : List Nat} (first : Nat)
    (hrest : without first lines ns = without first lines' ns)
    (hlook : ∀ n ∈ ns, first ≤ n → ∃ line line', lines[n - first]? = some line ∧
      lines'[n - first]? = some line' ∧ line.visible = line'.visible) :
    lines.map Line.visible = lines'.map Line.visible := by
  induction lines generalizing lines' first with
  | nil =>
    cases lines' with
    | nil => rfl
    | cons line' lines' =>
      rw [without_cons] at hrest
      by_cases hmem : first ∈ ns
      · obtain ⟨line, -, hline, -⟩ := hlook first hmem (Nat.le_refl _)
        cases hline
      · rw [if_neg hmem] at hrest
        cases hrest
  | cons line lines ih =>
    cases lines' with
    | nil =>
      rw [without_cons] at hrest
      by_cases hmem : first ∈ ns
      · obtain ⟨-, line', -, hline', -⟩ := hlook first hmem (Nat.le_refl _)
        cases hline'
      · rw [if_neg hmem] at hrest
        cases hrest
    | cons line' lines' =>
      rw [without_cons, without_cons] at hrest
      have hlater : ∀ n ∈ ns, first + 1 ≤ n → ∃ line line', lines[n - (first + 1)]? = some line ∧
          lines'[n - (first + 1)]? = some line' ∧ line.visible = line'.visible := by
        intro n hn hle
        have hsucc : n - first = n - (first + 1) + 1 := by omega
        have hboth := hlook n hn (by omega)
        rwa [hsucc, List.getElem?_cons_succ, List.getElem?_cons_succ] at hboth
      by_cases hmem : first ∈ ns
      · obtain ⟨_, _, hline, hline', hsame⟩ := hlook first hmem (Nat.le_refl _)
        rw [Nat.sub_self, List.getElem?_cons_zero, Option.some.injEq] at hline hline'
        rw [if_pos hmem, if_pos hmem] at hrest
        rw [List.map_cons, List.map_cons, hline, hline', hsame, ih (first + 1) hrest hlater]
      · rw [if_neg hmem, if_neg hmem, List.cons.injEq] at hrest
        rw [List.map_cons, List.map_cons, hrest.1, ih (first + 1) hrest.2 hlater]

/-- **A report and the expected text tell how the actual text looks.** -/
theorem visible_eq_of_differenceReport_eq
    (h : differenceReport actual expected = differenceReport actual' expected) :
    visible actual = visible actual' := by
  have hentries := entries_eq_of_differenceReport_eq h
  have hnumbers (c : Change) :
      numbers c (blocks actual expected) = numbers c (blocks actual' expected) := by
    rw [numbers_eq_map_number, numbers_eq_map_number, hentries]
  have hrest : without 1 (Line.split actual) (numbers .added (blocks actual expected))
      = without 1 (Line.split actual') (numbers .added (blocks actual expected)) := by
    have hactual := rest_same_blocks actual expected
    rw [hnumbers, rest_same_blocks actual' expected, ← hnumbers .added] at hactual
    exact hactual.symm
  have hlines : (Line.split actual).map Line.visible = (Line.split actual').map Line.visible := by
    refine map_visible_eq 1 hrest fun n hn _ => ?_
    rw [numbers_eq_map_number, List.mem_map] at hn
    obtain ⟨e, he, rfl⟩ := hn
    obtain ⟨hmem, hadded⟩ := List.mem_filter.mp he
    obtain ⟨line, hline, hshown⟩ := exists_line_of_mem_entries hmem
    rw [hentries] at hmem
    obtain ⟨line', hline', hshown'⟩ := exists_line_of_mem_entries hmem
    rw [of_decide_eq_true hadded] at hline hline'
    exact ⟨line, line', hline, hline', hshown.symm.trans hshown'⟩
  rw [← Line.unsplit_split actual, ← Line.unsplit_split actual', Line.visible_unsplit,
    Line.visible_unsplit, hlines]

/-- **Lines and texts that differ in more than signs are shown apart.** Different lines look
different exactly if they do not differ in signs only. Two actual texts that do not differ in signs
only have different reports against the same expected text. In a report, a missing and an unexpected
line that are different, and not in signs only, are shown as different texts. -/
theorem shown_apart_but_for_signs (expected actual : Text) :
    (∀ line line' : Line, Unbroken line.text → Unbroken line'.text → line ≠ line' →
      (line.visible ≠ line'.visible ↔ ¬ DifferInSigns line.toText line'.toText)) ∧
    (∀ actual', actual ≠ actual' → ¬ DifferInSigns actual actual' →
      differenceReport actual expected ≠ differenceReport actual' expected) ∧
    ∀ r ∈ (blocks actual expected).flatMap Block.entries,
      ∀ a ∈ (blocks actual expected).flatMap Block.entries,
        r.change = .removed → a.change = .added → ∀ line line',
        (Line.split expected)[r.number - 1]? = some line →
        (Line.split actual)[a.number - 1]? = some line' → line ≠ line' →
        ¬ DifferInSigns line.toText line'.toText → r.shown ≠ a.shown := by
  refine ⟨fun line line' h h' hne => not_congr (Line.visible_eq_iff_differInSigns h h' hne), ?_, ?_⟩
  · intro actual' hne hsigns h
    exact (visible_eq_iff.mp (visible_eq_of_differenceReport_eq h)).elim hne hsigns
  · intro r hr a ha hremoved hadded line line' hline hline' hne hsigns hsame
    obtain ⟨_, hrline, hrshown⟩ := exists_line_of_mem_entries hr
    obtain ⟨_, haline, hashown⟩ := exists_line_of_mem_entries ha
    rw [hremoved, sides, hline, Option.some.injEq] at hrline
    rw [hadded, sides, hline', Option.some.injEq] at haline
    rw [hrshown, hashown, ← hrline, ← haline] at hsame
    have hunbroken := (Line.areLines_split expected).unbroken _ (List.mem_of_getElem? hline)
    have hunbroken' := (Line.areLines_split actual).unbroken _ (List.mem_of_getElem? hline')
    exact hsigns ((Line.visible_eq_iff_differInSigns hunbroken hunbroken' hne).mp hsame)

/-- Texts with a sign in the same place differ in another one. -/
theorem shown_apart_but_for_signs_arrows :
    "a→b".toList ≠ "a→c".toList ∧ ¬ DifferInSigns "a→b".toList "a→c".toList ∧
      differenceReport "a→b".toList "a".toList ≠ differenceReport "a→c".toList "a".toList := by
  have hne : "a→b".toList ≠ "a→c".toList := by decide
  have hsigns : ¬ DifferInSigns "a→b".toList "a→c".toList := by
    rintro ⟨-, hplaces⟩
    obtain ⟨-, hplaces⟩ := List.forall₂_cons.mp hplaces
    obtain ⟨-, hplaces⟩ := List.forall₂_cons.mp hplaces
    rcases (List.forall₂_cons.mp hplaces).1 with h | h | h <;> cases h
  exact ⟨hne, hsigns, (shown_apart_but_for_signs _ _).2.1 _ hne hsigns⟩

/-- A blank and the sign for it are different, and look the same: as lines, in the reports about two
actual texts, and on the two sides of one report. -/
theorem blank_looks_like_its_sign :
    (Line.mk [' '] .none ≠ Line.mk ['·'] .none ∧
      (Line.mk [' '] .none).visible = (Line.mk ['·'] .none).visible) ∧
    (" ".toList ≠ "·".toList ∧
      differenceReport " ".toList "x".toList = differenceReport "·".toList "x".toList) ∧
    Line.split " ".toList = [⟨[' '], .none⟩] ∧ Line.split "·".toList = [⟨['·'], .none⟩] ∧
      blocks "·".toList " ".toList = [⟨[⟨1, .removed, ['·']⟩], [⟨1, .added, ['·']⟩]⟩] := by
  refine ⟨⟨?_, ?_⟩, ⟨?_, ?_⟩, ?_, ?_, ?_⟩ <;> decide +kernel

end Difference

end Assay
