import Assay.Fault
import Assay.Proofs.Matching.Verdict

/-!
# Presence and absence

A diagnostic is demanded at a place, or none is to touch it. The two demands look at different
things: what stands just there, and what shares a position with it. `Span.Meets` says what sharing a
position is, case by case, and `Span.overlaps_iff_meets` that this is what is computed. Whatever
stands at a place touches it, so the two demands are never met at once
(`presence_excludes_absence`).
-/

namespace Assay

/-! ## Shared positions -/

namespace Span

/-- One of the characters of a span stands at an offset. An empty span has none. -/
def Covers (s : Span) (offset : Nat) : Prop := s.start ≤ offset ∧ offset < s.stop

/-- Two spans share a position: a character of both, or the offset at which an empty one stands. -/
inductive Meets : Span → Span → Prop
  | common {a b : Span} {offset : Nat} (left : a.Covers offset) (right : b.Covers offset) :
      Meets a b
  | emptyLeft {a b : Span} (empty : a.length = 0) (within : b.Covers a.start) : Meets a b
  | emptyRight {a b : Span} (empty : b.length = 0) (within : a.Covers b.start) : Meets a b
  | bothEmpty {a b : Span} (left : a.length = 0) (right : b.length = 0)
      (same : a.start = b.start) : Meets a b

theorem Covers.length_ne_zero {s : Span} {offset : Nat} (h : s.Covers offset) : s.length ≠ 0 := by
  obtain ⟨hstart, hstop⟩ := h
  simp only [stop] at hstop
  omega

/-- Two spans with characters share one if each starts before the other one stops. -/
theorem exists_covers_iff {a b : Span} (ha : a.length ≠ 0) (hb : b.length ≠ 0) :
    (∃ offset, a.Covers offset ∧ b.Covers offset) ↔ a.start < b.stop ∧ b.start < a.stop := by
  simp only [Covers, stop]
  constructor
  · rintro ⟨offset, hleft, hright⟩
    omega
  · intro h
    -- the later one of the two starts is in both
    exact ⟨max a.start b.start, by omega, by omega⟩

theorem overlaps_iff_meets (a b : Span) : a.overlaps b = true ↔ a.Meets b := by
  by_cases ha : a.length = 0
  · by_cases hb : b.length = 0
    · rw [overlaps, if_pos ⟨ha, hb⟩, beq_iff_eq]
      refine ⟨.bothEmpty ha hb, fun h => ?_⟩
      cases h with
      | common left => exact absurd ha left.length_ne_zero
      | emptyLeft _ within => exact absurd hb within.length_ne_zero
      | emptyRight _ within => exact absurd ha within.length_ne_zero
      | bothEmpty _ _ same => exact same
    · rw [overlaps, if_neg fun h => hb h.2, if_pos ha, contains_iff]
      refine ⟨.emptyLeft ha, fun h => ?_⟩
      cases h with
      | common left => exact absurd ha left.length_ne_zero
      | emptyLeft _ within => exact within
      | emptyRight hempty => exact absurd hempty hb
      | bothEmpty _ hempty => exact absurd hempty hb
  · by_cases hb : b.length = 0
    · rw [overlaps, if_neg fun h => ha h.1, if_neg ha, if_pos hb, contains_iff]
      refine ⟨.emptyRight hb, fun h => ?_⟩
      cases h with
      | common _ right => exact absurd hb right.length_ne_zero
      | emptyLeft hempty => exact absurd hempty ha
      | emptyRight _ within => exact within
      | bothEmpty hempty => exact absurd hempty ha
    · rw [overlaps, if_neg fun h => ha h.1, if_neg ha, if_neg hb, Bool.and_eq_true,
        decide_eq_true_eq, decide_eq_true_eq, ← exists_covers_iff ha hb]
      refine ⟨fun ⟨_, left, right⟩ => .common left right, fun h => ?_⟩
      cases h with
      | common left right => exact ⟨_, left, right⟩
      | emptyLeft hempty => exact absurd hempty ha
      | emptyRight hempty => exact absurd hempty hb
      | bothEmpty hempty => exact absurd hempty ha

end Span

/-- A diagnostic on a span touches the place of a locator: it shares a position with the span that is
asked for, or starts on the line. -/
inductive Locator.TouchedBy (t : Text) : Locator → Span → Prop
  | span {place s : Span} (meets : s.Meets place) : TouchedBy t (.span place) s
  | line {number : Int} {s : Span} (starts : (lineOf t s.start : Int) = number) :
      TouchedBy t (.line number) s

theorem Locator.touches_iff_touchedBy {l : Locator} {s : Span} {t : Text} :
    l.touches s t = true ↔ l.TouchedBy t s := by
  cases l with
  | span place =>
    rw [touches, Span.overlaps_iff_meets]
    exact ⟨.span, fun h => by cases h; assumption⟩
  | line number =>
    rw [touches, matchesSpan, decide_eq_true_eq]
    exact ⟨.line, fun h => by cases h; assumption⟩

namespace Outcome

theorem ofFailures_eq_done_iff {failures : List String} :
    ofFailures failures = .done () ↔ failures = [] := by
  cases failures with
  | nil => exact ⟨fun _ => rfl, fun _ => rfl⟩
  | cons failure rest => exact ⟨nofun, nofun⟩

theorem exists_ofFailures_eq_raised_iff {failures : List String} :
    (∃ raised, ofFailures failures = .raised (.unmet raised)) ↔ failures ≠ [] := by
  cases failures with
  | nil => exact ⟨nofun, fun h => absurd rfl h⟩
  | cons failure rest => exact ⟨fun _ => List.cons_ne_nil _ _, fun _ => ⟨_, rfl⟩⟩

end Outcome

/-! ## The two demands -/

namespace Matching

variable {actual : List Diagnostic} {t : Text} {file : String}

/-- One expectation is met exactly if a diagnostic is what it asks for. -/
theorem presenceFailures_singleton_eq_nil_iff {e : Expectation} :
    presenceFailures [e] actual t false file = [] ↔ ∃ d ∈ actual, e.fits t d = true := by
  rw [presenceFailures_eq_nil_iff, ← exists_fulfils_iff_length_matched]
  simp only [fulfils_iff, counted, Bool.false_eq_true, if_false, List.length_nil, and_true]
  constructor
  · rintro ⟨assign, -, hfits⟩
    exact ⟨_, List.getElem_mem (assign 0).isLt, hfits 0⟩
  · rintro ⟨d, hd, hfits⟩
    obtain ⟨j, hj, rfl⟩ := List.getElem_of_mem hd
    exact ⟨fun _ => ⟨j, hj⟩, fun (i k : Fin 1) _ => Subsingleton.elim i k,
      fun (i : Fin 1) => Subsingleton.elim 0 i ▸ hfits⟩

theorem absenceFailures_eq_nil_iff {id : String} {locators : List Locator} :
    absenceFailures id locators actual t file = [] ↔
      ∀ l ∈ locators, ∀ d ∈ actual, d.id = id → ¬ l.TouchedBy t d.span := by
  simp only [absenceFailures, List.flatMap_eq_nil_iff, List.map_eq_nil_iff,
    List.filter_eq_nil_iff, Bool.and_eq_true, decide_eq_true_eq, not_and,
    Locator.touches_iff_touchedBy]

/-- What meets an expectation is touched by the place at which it is expected. -/
theorem absenceFailures_ne_nil_of_fits {id : String} {l : Locator} {message : Option String}
    {d : Diagnostic} (hd : d ∈ actual)
    (h : (⟨id, l, message⟩ : Expectation).fits t d = true) :
    absenceFailures id [l] actual t file ≠ [] := by
  intro hnil
  obtain ⟨hid, hplace, -⟩ := fits_iff.mp h
  have htouched := Locator.touches_iff_touchedBy.mp (Locator.touches_of_matchesSpan hplace)
  exact absenceFailures_eq_nil_iff.mp hnil l List.mem_cons_self d hd hid htouched

/-- On a line the two demands look at the same diagnostics. -/
theorem absenceFailures_line_eq_nil_iff {id : String} {number : Int} :
    absenceFailures id [.line number] actual t file = [] ↔
      presenceFailures [⟨id, .line number, none⟩] actual t false file ≠ [] := by
  rw [Ne, presenceFailures_singleton_eq_nil_iff]
  constructor
  · rintro hnil ⟨d, hd, hfits⟩
    exact absenceFailures_ne_nil_of_fits hd hfits hnil
  · intro hnone
    by_contra hsome
    simp only [absenceFailures_eq_nil_iff, List.forall_mem_singleton, not_forall, not_not] at hsome
    obtain ⟨d, hd, hid, htouched⟩ := hsome
    exact hnone ⟨d, hd, fits_iff.mpr ⟨hid, Locator.touches_iff_touchedBy.mpr htouched, nofun⟩⟩

/-- **A diagnostic is never both found and missed at one place.** If a diagnostic with an id is
found at a place, whatever its message, then the demand that none touches the place is refused; on a
line, without a message, just one of the two demands is refused. A demand of absence is met exactly
if no diagnostic with the id touches a place. Touching is sharing a position, and it does not matter
which of two spans is the place. -/
theorem presence_excludes_absence (id : String) (actual : List Diagnostic) (t : Text)
    (file : String) :
    let presence (l : Locator) (message : Option String) : Outcome Unit :=
      .ofFailures (presenceFailures [⟨id, l, message⟩] actual t false file)
    let absence (locators : List Locator) : Outcome Unit :=
      .ofFailures (absenceFailures id locators actual t file)
    (∀ l message, presence l message = .done () →
        ∃ failures, absence [l] = .raised (.unmet failures)) ∧
      (∀ number,
        (presence (.line number) none = .done () ∧
            ∃ failures, absence [.line number] = .raised (.unmet failures)) ∨
          ((∃ failures, presence (.line number) none = .raised (.unmet failures)) ∧
            absence [.line number] = .done ())) ∧
      (∀ locators, absence locators = .done () ↔
        ∀ l ∈ locators, ∀ d ∈ actual, d.id = id → ¬ l.TouchedBy t d.span) ∧
      ∀ a b : Span, (a.overlaps b = true ↔ a.Meets b) ∧ a.overlaps b = b.overlaps a := by
  intro presence absence
  simp only [presence, absence, Outcome.ofFailures_eq_done_iff,
    Outcome.exists_ofFailures_eq_raised_iff]
  refine ⟨fun l message hpresent => ?_, fun number => ?_, fun locators => ?_, fun a b => ?_⟩
  · obtain ⟨d, hd, hfits⟩ := presenceFailures_singleton_eq_nil_iff.mp hpresent
    exact absenceFailures_ne_nil_of_fits hd hfits
  · by_cases habsent : absenceFailures id [.line number] actual t file = []
    · exact Or.inr ⟨absenceFailures_line_eq_nil_iff.mp habsent, habsent⟩
    · exact Or.inl ⟨not_not.mp (mt absenceFailures_line_eq_nil_iff.mpr habsent), habsent⟩
  · exact absenceFailures_eq_nil_iff
  · exact ⟨Span.overlaps_iff_meets a b, Span.overlaps_comm a b⟩

/-- An empty span is found on itself, and so it is not missed there. -/
theorem presence_excludes_absence_empty :
    let reported : List Diagnostic := [⟨"X", ⟨0, 1⟩, "m", .warning⟩, ⟨"X", ⟨1, 0⟩, "n", .warning⟩]
    let place : Locator := .span ⟨1, 0⟩
    Outcome.ofFailures (presenceFailures [⟨"X", place, some "n"⟩] reported ['a'] false "Test.al")
        = .done () ∧
      ∃ failures, Outcome.ofFailures (absenceFailures "X" [place] reported ['a'] "Test.al")
        = .raised (.unmet failures) := by
  intro reported place
  have hpresent : Outcome.ofFailures
      (presenceFailures [⟨"X", place, some "n"⟩] reported ['a'] false "Test.al") = .done () := by
    rw [Outcome.ofFailures_eq_done_iff, presenceFailures_singleton_eq_nil_iff]
    decide
  exact ⟨hpresent,
    (presence_excludes_absence "X" reported ['a'] "Test.al").1 place (some "n") hpresent⟩

end Matching

end Assay
