import Assay.Lexeme
import Mathlib.Tactic.Common

/-!
# Placing lexemes

Tokens and errors are read off the lexemes of a text by giving each its offset. This module says
where things are placed: how placing goes with putting lists of lexemes together and with moving
along the text, which lexeme covers an offset, and that what covers an offset comes from that lexeme
alone.
-/

namespace Assay.Lexeme

/-- How far lexemes reach. -/
def width (ls : List Lexeme) : Nat := (ls.flatMap text).length

@[simp] theorem width_nil : width [] = 0 := rfl

@[simp] theorem width_cons (l : Lexeme) (ls : List Lexeme) :
    width (l :: ls) = l.text.length + width ls := by
  rw [width, List.flatMap_cons, List.length_append, width]

theorem width_append (before after : List Lexeme) :
    width (before ++ after) = width before + width after := by
  rw [width, List.flatMap_append, List.length_append, width, width]

theorem width_ofText (fresh : Bool) (t : Text) : width (ofText fresh t) = t.length := by
  rw [width, flatMap_text_ofText]

/-- Every offset of a text is in one of its lexemes. -/
theorem exists_lexeme_at {ls : List Lexeme} {offset : Nat} (h : offset < width ls) :
    ∃ before l after, ls = before ++ l :: after ∧ width before ≤ offset ∧
      offset < width before + l.text.length := by
  induction ls generalizing offset with
  | nil => cases h
  | cons l ls ih =>
    by_cases hl : offset < l.text.length
    · exact ⟨[], l, ls, rfl, Nat.zero_le _, by simpa using hl⟩
    · rw [width_cons] at h
      obtain ⟨before, m, after, rfl, hle, hlt⟩ := @ih (offset - l.text.length) (by omega)
      exact ⟨l :: before, m, after, rfl, by rw [width_cons]; omega, by rw [width_cons]; omega⟩

variable {α : Type} {yield : Nat → Lexeme → List α}

theorem place_append (yield : Nat → Lexeme → List α) (offset : Nat) (before after : List Lexeme) :
    place yield offset (before ++ after)
      = place yield offset before ++ place yield (offset + width before) after := by
  induction before generalizing offset with
  | nil => rfl
  | cons l before ih =>
    rw [List.cons_append, place, ih, place, width_cons, List.append_assoc, Nat.add_assoc]

/-- What is placed comes from a lexeme at its offset. -/
theorem mem_place_iff {offset : Nat} {ls : List Lexeme} {x : α} : x ∈ place yield offset ls ↔
    ∃ before l after, ls = before ++ l :: after ∧ x ∈ yield (offset + width before) l := by
  constructor
  · intro h
    induction ls generalizing offset with
    | nil => cases h
    | cons l ls ih =>
      rw [place, List.mem_append] at h
      rcases h with h | h
      · exact ⟨[], l, ls, rfl, h⟩
      · obtain ⟨before, m, after, rfl, hx⟩ := ih h
        exact ⟨l :: before, m, after, rfl, by rwa [width_cons, ← Nat.add_assoc]⟩
  · rintro ⟨before, l, after, rfl, hx⟩
    rw [place_append, place]
    exact List.mem_append_right _ (List.mem_append_left _ hx)

theorem mem_place_zero_iff {ls : List Lexeme} {x : α} : x ∈ place yield 0 ls ↔
    ∃ before l after, ls = before ++ l :: after ∧ x ∈ yield (width before) l := by
  rw [mem_place_iff]
  simp only [Nat.zero_add]

/-- Placing further on in the text gives the same things further on in the text. -/
theorem place_shift {move : α → α} {distance : Nat}
    (h : ∀ offset l, yield (offset + distance) l = (yield offset l).map move) (offset : Nat)
    (ls : List Lexeme) :
    place yield (offset + distance) ls = (place yield offset ls).map move := by
  induction ls generalizing offset with
  | nil => rfl
  | cons l ls ih =>
    rw [place, place, List.map_append, h, ← ih, Nat.add_right_comm]

theorem tokensAt_add (offset distance : Nat) (l : Lexeme) :
    tokensAt (offset + distance) l = (tokensAt offset l).map (·.shift distance) := by
  cases l <;> rfl

theorem errorsAt_add (offset distance : Nat) (l : Lexeme) :
    errorsAt (offset + distance) l = (errorsAt offset l).map (·.shift distance) := by
  rcases l with c | c | ⟨kind, text, _ | flaw⟩ <;> rfl

/-- Tokens that are placed in front of others come from the lexemes in front of a lexeme. -/
theorem exists_split_of_place {offset : Nat} {ls : List Lexeme} {front behind tail : List Token}
    {t : Token} (h : place tokensAt offset ls ++ tail = front ++ t :: behind) (ht : t ∉ tail) :
    ∃ before kind text flaw after, ls = before ++ .token kind text flaw :: after ∧
      front = place tokensAt offset before ∧
      t = Token.ofLexeme kind text (offset + width before) := by
  induction ls generalizing offset front with
  | nil =>
    have hmem : t ∈ front ++ t :: behind := List.mem_append_right _ List.mem_cons_self
    rw [← h] at hmem
    exact absurd hmem ht
  | cons l ls ih =>
    rw [place, List.append_assoc] at h
    have hskip {front' : List Token} (hfront : front = tokensAt offset l ++ front')
        (hrest : place tokensAt (offset + l.text.length) ls ++ tail = front' ++ t :: behind) :
        ∃ before kind text flaw after, l :: ls = before ++ .token kind text flaw :: after ∧
          front = place tokensAt offset before ∧
          t = Token.ofLexeme kind text (offset + width before) := by
      obtain ⟨before, kind, text, flaw, after, rfl, rfl, rfl⟩ := ih hrest
      exact ⟨l :: before, kind, text, flaw, after, rfl, hfront, by rw [width_cons, Nat.add_assoc]⟩
    cases l with
    | blank c => exact hskip rfl h
    | stray c => exact hskip rfl h
    | token kind text flaw =>
      cases front with
      | nil => exact ⟨[], kind, text, flaw, ls, rfl, rfl, (List.cons.inj h).1.symm⟩
      | cons first front =>
        obtain ⟨hfirst, hrest⟩ := List.cons.inj h
        exact hskip (congrArg (· :: front) hfirst.symm) hrest

/-! ## Spans -/

/-- Whether at most one thing is read off a lexeme, and spans the lexeme. -/
def SpansLexemes (span : α → Span) (yield : Nat → Lexeme → List α) : Prop :=
  ∀ offset l, yield offset l = [] ∨
    ∃ x, yield offset l = [x] ∧ span x = ⟨offset, l.text.length⟩

theorem spansLexemes_tokensAt : SpansLexemes Token.span tokensAt := by
  intro offset l
  rcases l with c | c | ⟨kind, text, flaw⟩
  · exact Or.inl rfl
  · exact Or.inl rfl
  · exact Or.inr ⟨_, rfl, rfl⟩

theorem spansLexemes_errorsAt : SpansLexemes Diagnostic.span errorsAt := by
  intro offset l
  rcases l with c | c | ⟨kind, text, _ | flaw⟩
  · exact Or.inl rfl
  · exact Or.inr ⟨_, rfl, rfl⟩
  · exact Or.inl rfl
  · exact Or.inr ⟨_, rfl, rfl⟩

variable {span : α → Span} (hspans : SpansLexemes span yield)

include hspans

theorem span_of_mem_yield {offset : Nat} {l : Lexeme} {x : α} (h : x ∈ yield offset l) :
    span x = ⟨offset, l.text.length⟩ := by
  rcases hspans offset l with hnil | ⟨y, hy, hspan⟩
  · rw [hnil] at h
    cases h
  · rw [hy, List.mem_singleton] at h
    rw [h, hspan]

theorem bounds_of_mem_place {offset : Nat} {ls : List Lexeme} {x : α}
    (h : x ∈ place yield offset ls) :
    offset ≤ (span x).start ∧ (span x).stop ≤ offset + width ls := by
  obtain ⟨before, l, after, rfl, hx⟩ := mem_place_iff.mp h
  rw [span_of_mem_yield hspans hx]
  simp only [Span.stop, width, List.flatMap_append, List.flatMap_cons, List.length_append]
  omega

/-- **What is placed is in ascending order and does not overlap.** -/
theorem pairwise_place (offset : Nat) (ls : List Lexeme) :
    (place yield offset ls).Pairwise fun x y => (span x).stop ≤ (span y).start := by
  induction ls generalizing offset with
  | nil => exact List.Pairwise.nil
  | cons l ls ih =>
    rw [place]
    refine List.pairwise_append.mpr ⟨?_, ih _, ?_⟩
    · rcases hspans offset l with hnil | ⟨x, hx, _⟩
      · rw [hnil]
        exact List.Pairwise.nil
      · rw [hx]
        exact List.pairwise_singleton _ _
    · intro x hx y hy
      have hstart := (bounds_of_mem_place hspans hy).1
      rw [span_of_mem_yield hspans hx]
      exact hstart

/-- **What covers an offset comes from the lexeme there.** -/
theorem filter_contains_place {before after : List Lexeme} {l : Lexeme} {offset : Nat}
    (hle : width before ≤ offset) (hlt : offset < width before + l.text.length) :
    (place yield 0 (before ++ l :: after)).filter (fun x => (span x).contains offset)
      = yield (width before) l := by
  have hbefore : (place yield 0 before).filter (fun x => (span x).contains offset) = [] := by
    refine List.filter_eq_nil_iff.mpr fun x hx => ?_
    have hstop := (bounds_of_mem_place hspans hx).2
    rw [Span.contains_iff]
    omega
  have hhere : (yield (width before) l).filter (fun x => (span x).contains offset)
      = yield (width before) l := by
    refine List.filter_eq_self.mpr fun x hx => ?_
    rw [span_of_mem_yield hspans hx, Span.contains_iff]
    exact ⟨hle, hlt⟩
  have hafter : (place yield (width before + l.text.length) after).filter
      (fun x => (span x).contains offset) = [] := by
    refine List.filter_eq_nil_iff.mpr fun x hx => ?_
    have hstart := (bounds_of_mem_place hspans hx).1
    rw [Span.contains_iff]
    omega
  rw [place_append, place, Nat.zero_add, List.filter_append, List.filter_append, hbefore, hhere,
    hafter, List.nil_append, List.append_nil]

end Assay.Lexeme

namespace Assay

open Lexeme

/-- Errors about some lexemes stay in place when the lexemes behind them move along the text. -/
theorem map_errors_behind (before after : List Lexeme) {offset : Nat} (hlt : width before < offset)
    (distance : Nat) :
    (place errorsAt 0 before ++ place errorsAt offset after).map
        (fun d => if d.span.stop ≤ width before then d else d.shift distance)
      = place errorsAt 0 before ++ (place errorsAt offset after).map (·.shift distance) := by
  rw [List.map_append]
  congr 1
  · refine (List.map_congr_left fun d hd => if_pos ?_).trans (List.map_id _)
    have hstop := (bounds_of_mem_place spansLexemes_errorsAt hd).2
    omega
  · refine List.map_congr_left fun d hd => if_neg ?_
    have hstart := (bounds_of_mem_place spansLexemes_errorsAt hd).1
    have hstop := d.span.start_le_stop
    omega

/-- The tokens of a source are in ascending order, and the end of the text is behind them. -/
theorem pairwise_tokenize (source : Text) :
    (tokenize source).Pairwise fun a b => a.span.stop ≤ b.span.start := by
  refine List.pairwise_append.mpr
    ⟨pairwise_place spansLexemes_tokensAt 0 _, List.pairwise_singleton _ _, fun a ha b hb => ?_⟩
  have hstop := (bounds_of_mem_place spansLexemes_tokensAt ha).2
  rw [width_ofText, Nat.zero_add] at hstop
  rw [List.mem_singleton.mp hb]
  exact hstop

end Assay
