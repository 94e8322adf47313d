import Assay.Proofs.Lexing.Cover
import Assay.Proofs.Samples.Fields

/-!
# The shape of a field

A field is a keyword, a header in parentheses and a body in braces. The header ends with the first
closing parenthesis, and between the braces of the body all others are closed (`Balanced`). The scan
finds all that has this shape and nothing else, if nothing stands behind the end of a text
(`fieldAt?_eq_some_iff`).
-/

namespace Assay.Sample

variable {t c : Token} {f : Field} {ts rest body more : List Token} {depth : Nat}

/-! ## Balanced braces -/

/-- By how many braces a token changes the number of those that are open. -/
def braceStep (t : Token) : Int :=
  if t.kind = .leftBrace then 1 else if t.kind = .rightBrace then -1 else 0

/-- How many braces more are opened by tokens than closed. -/
def excess : List Token → Int
  | [] => 0
  | t :: ts => braceStep t + excess ts

@[simp] theorem excess_nil : excess [] = 0 := rfl

@[simp] theorem excess_cons (t : Token) (ts : List Token) :
    excess (t :: ts) = braceStep t + excess ts := rfl

/-- All braces are closed when `depth` of them are open before, and none more at any time. -/
structure Closed (depth : Nat) (ts : List Token) : Prop where
  never_less : ∀ front, front <+: ts → 0 ≤ depth + excess front
  settled : depth + excess ts = 0

/-- Every brace has its counterpart. -/
abbrev Balanced (ts : List Token) : Prop := Closed 0 ts

theorem closed_nil : Closed depth [] ↔ depth = 0 := by
  constructor
  · intro h
    have hsettled := h.settled
    rw [excess_nil] at hsettled
    omega
  · rintro rfl
    refine ⟨fun front hfront => ?_, rfl⟩
    rw [List.prefix_nil.mp hfront]
    exact Int.le_refl 0

theorem nesting_eq_some {deeper : Nat} (h : nesting depth t.kind = some deeper) :
    (deeper : Int) = depth + braceStep t := by
  unfold nesting at h
  unfold braceStep
  by_cases hclose : t.kind = .rightBrace
  · cases depth with
    | zero => simp [hclose] at h
    | succ depth =>
      obtain rfl : depth = deeper := by simpa [hclose] using h
      rw [if_neg (by rw [hclose]; decide), if_pos hclose]
      omega
  · by_cases hopen : t.kind = .leftBrace
    · obtain rfl : depth + 1 = deeper := by simpa [hopen] using h
      simp [hopen]
    · obtain rfl : depth = deeper := by simpa [hopen, hclose] using h
      simp [hopen, hclose]

/-- The first token closes no brace that is not open, and the others close those that are then. -/
theorem closed_cons :
    Closed depth (t :: ts) ↔ ∃ deeper, nesting depth t.kind = some deeper ∧ Closed deeper ts := by
  constructor
  · intro h
    cases hnesting : nesting depth t.kind with
    | none =>
      obtain ⟨rfl, hclose⟩ := nesting_eq_none hnesting
      have hless := h.never_less [t] ⟨ts, rfl⟩
      simp [braceStep, hclose] at hless
    | some deeper =>
      have hdeeper := nesting_eq_some hnesting
      refine ⟨deeper, rfl, fun front hfront => ?_, ?_⟩
      · have hless := h.never_less (t :: front) (List.cons_prefix_cons.mpr ⟨rfl, hfront⟩)
        rw [excess_cons] at hless
        omega
      · have hsettled := h.settled
        rw [excess_cons] at hsettled
        omega
  · rintro ⟨deeper, hnesting, h⟩
    have hdeeper := nesting_eq_some hnesting
    refine ⟨fun front hfront => ?_, ?_⟩
    · rcases List.prefix_cons_iff.mp hfront with rfl | ⟨front, rfl, hinner⟩
      · simp
      · have hless := h.never_less front hinner
        rw [excess_cons]
        omega
    · have hsettled := h.settled
      rw [excess_cons]
      omega

/-- **The scan for a closing brace goes over the tokens that close all others.** -/
theorem splitAtClosing_eq_some_iff : splitAtClosing depth ts = some (body, c, more) ↔
    ts = body ++ c :: more ∧ c.kind = .rightBrace ∧ Closed depth body := by
  induction ts generalizing depth body with
  | nil => simp [splitAtClosing]
  | cons t ts ih =>
    cases hnesting : nesting depth t.kind with
    | none =>
      rw [splitAtClosing_of_none hnesting]
      obtain ⟨rfl, hclose⟩ := nesting_eq_none hnesting
      constructor
      · intro h
        cases h
        exact ⟨rfl, hclose, closed_nil.mpr rfl⟩
      · rintro ⟨heq, hc, hbody⟩
        cases body with
        | nil =>
          cases heq
          rfl
        | cons first body =>
          cases heq
          obtain ⟨deeper, hsome, -⟩ := closed_cons.mp hbody
          rw [hnesting] at hsome
          cases hsome
    | some deeper =>
      rw [splitAtClosing_of_some hnesting]
      constructor
      · intro h
        obtain ⟨⟨inner, c', more'⟩, hfound, hcons⟩ := Option.map_eq_some_iff.mp h
        cases hcons
        obtain ⟨rfl, hc, hinner⟩ := ih.mp hfound
        exact ⟨rfl, hc, closed_cons.mpr ⟨deeper, hnesting, hinner⟩⟩
      · rintro ⟨heq, hc, hbody⟩
        cases body with
        | nil =>
          cases heq
          obtain rfl := closed_nil.mp hbody
          rw [hc] at hnesting
          cases hnesting
        | cons first body =>
          cases heq
          obtain ⟨deeper', hsome, hinner⟩ := closed_cons.mp hbody
          obtain rfl : deeper = deeper' := Option.some.inj (hnesting.symm.trans hsome)
          rw [ih.mpr ⟨rfl, hc, hinner⟩]
          rfl

/-! ## Fields -/

/-- Tokens from an opening parenthesis to the first closing one. -/
def IsHeader (ts : List Token) : Prop :=
  ∃ opening inner closing, ts = opening :: inner ++ [closing] ∧ opening.kind = .leftParen ∧
    (∀ t ∈ inner, t.kind ≠ .rightParen) ∧ closing.kind = .rightParen

/-- A field as it is written: `field`, a header, and a body in braces. -/
structure Field.WellFormed (f : Field) : Prop where
  keyword : f.keyword.kind = .field
  header : IsHeader f.header
  opening : f.opening.kind = .leftBrace
  body : Balanced f.body
  closing : f.closing.kind = .rightBrace

/-- Nothing stands behind the end of a text. -/
def EndsLast (ts : List Token) : Prop := ts.Pairwise fun t _ => t.kind ≠ .eof

open Lexeme in
theorem endsLast_tokenize (source : Text) : EndsLast (tokenize source) := by
  have hproper : ∀ t ∈ place tokensAt 0 (ofText true source), t.kind ≠ .eof := by
    intro t ht
    obtain ⟨before, kind, text, flaw, after, hsplit, rfl⟩ := mem_tokens_iff.mp ht
    cases (sound_here hsplit).2 with
    | token hkind _ => exact hkind
  refine List.pairwise_append.mpr ⟨?_, List.pairwise_singleton _ _, fun t ht _ _ => hproper t ht⟩
  exact List.pairwise_of_forall_mem_list fun t ht _ _ => hproper t ht

/-- A token with others behind it ends a header exactly if it is a closing parenthesis. -/
theorem continuesHeader_iff (hend : t.kind ≠ .eof) :
    continuesHeader t = true ↔ t.kind ≠ .rightParen := by
  simp [continuesHeader, hend]

/-- **The scan finds what is a field.** -/
theorem fieldAt?_eq_some_iff (hends : EndsLast (t :: rest)) : fieldAt? t rest = some (f, more) ↔
    f.WellFormed ∧ t = f.keyword ∧ rest = f.behindKeyword ++ more := by
  constructor
  · intro h
    obtain ⟨header, paren, opening, inner, rfl, hkeyword, hstart, hheader, hparen, hopening⟩ :=
      exists_header_of_fieldAt? h
    rw [fieldAt?_of_header hkeyword hstart hheader hparen hopening] at h
    obtain ⟨⟨body, c, more⟩, hfound, hpair⟩ := Option.map_eq_some_iff.mp h
    cases hpair
    obtain ⟨rfl, hc, hbody⟩ := splitAtClosing_eq_some_iff.mp hfound
    have hparenthesis : paren.kind = .rightParen := by
      have hend : paren.kind ≠ .eof := by
        have hbehind := (List.pairwise_append.mp hends.of_cons).2.1
        exact List.rel_of_pairwise_cons hbehind List.mem_cons_self
      rwa [continuesHeader_iff hend, not_not] at hparen
    refine ⟨⟨hkeyword, ?_, hopening, hbody, hc⟩, rfl, by simp [Field.behindKeyword]⟩
    cases header with
    | nil =>
      rw [List.nil_append, List.head?_cons, Option.map_some, hparenthesis] at hstart
      cases hstart
    | cons first header =>
      refine ⟨first, header, paren, rfl, Option.some.inj hstart, fun t ht hkind => ?_, hparenthesis⟩
      have hcontinues := hheader t (List.mem_cons_of_mem _ ht)
      simp [continuesHeader, hkind] at hcontinues
  · rintro ⟨hf, rfl, rfl⟩
    obtain ⟨keyword, header, opening, body, closing⟩ := f
    obtain ⟨first, inner, paren, rfl, hfirst, hinner, hparen⟩ := hf.header
    have hrest : (Field.behindKeyword ⟨keyword, first :: inner ++ [paren], opening, body, closing⟩)
        ++ more = first :: inner ++ paren :: opening :: (body ++ closing :: more) := by
      simp [Field.behindKeyword]
    rw [hrest] at hends ⊢
    have hheader : ∀ t ∈ first :: inner, continuesHeader t = true := by
      intro t ht
      have hend : t.kind ≠ .eof :=
        (List.pairwise_append.mp hends.of_cons).2.2 t ht paren List.mem_cons_self
      rw [continuesHeader_iff hend]
      rcases List.mem_cons.mp ht with rfl | ht
      · rw [hfirst]
        decide
      · exact hinner t ht
    have hstop : ¬ continuesHeader paren = true := by simp [continuesHeader, hparen]
    have hstart : (first :: inner ++ paren :: opening :: (body ++ closing :: more)).head?.map
        Token.kind = some .leftParen := congrArg some hfirst
    rw [fieldAt?_of_header hf.keyword hstart hheader hstop hf.opening,
      splitAtClosing_eq_some_iff.mpr ⟨rfl, hf.closing, hf.body⟩]
    rfl

end Assay.Sample
