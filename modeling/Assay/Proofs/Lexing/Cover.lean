import Assay.Proofs.Lexing.Closing
import Assay.Proofs.Lexing.Lines

/-!
# What tokens and errors say about a source

Tokens and errors together account for a source: every character is under a token, or blank, or
reported as a stray one; and every error is about a stray character or about a token that lacks its
closing delimiter.
-/

namespace Assay

/-- Whether an offset is under no token. -/
def Uncovered (tokens : List Token) (offset : Nat) : Prop :=
  ∀ t ∈ tokens, ¬ t.span.contains offset = true

/-- Tokens and errors that account for every character of a source. Since the errors are in
ascending order, each is reported once. -/
structure Accounts (source : Text) (tokens : List Token) (errors : List Diagnostic) : Prop where
  proper : ∀ t ∈ tokens, t.kind ≠ .eof ∧ 0 < t.span.length
  lexeme : ∀ t ∈ tokens, t.span.stop ≤ source.length ∧ t.lexeme = t.span.textOf source
  ordered : tokens.Pairwise fun a b => a.span.stop ≤ b.span.start
  uncovered : ∀ offset c, source[offset]? = some c → Uncovered tokens offset →
    errors.filter (fun d => d.span.contains offset) = if isBlank c then [] else
      [⟨Lexeme.errorId, ⟨offset, 1⟩, Lexeme.strayMessage c, .error⟩]
  reported : ∀ d, d ∈ errors ↔
    (∃ offset c, source[offset]? = some c ∧ Uncovered tokens offset ∧ isBlank c = false ∧
      d = ⟨Lexeme.errorId, ⟨offset, 1⟩, Lexeme.strayMessage c, .error⟩) ∨
    ∃ t ∈ tokens, ∃ flaw, Lacks t.kind t.lexeme flaw ∧
      d = ⟨Lexeme.errorId, t.span, flaw.message, .error⟩
  ascending : errors.Pairwise fun a b => a.span.start < b.span.start

namespace Lexeme

variable {source : Text} {before after : List Lexeme} {l : Lexeme}

/-- Lexemes of a text are not empty, and sound. -/
theorem sound_of_mem {fresh : Bool} {t : Text} (h : l ∈ ofText fresh t) :
    l.text ≠ [] ∧ Sound l := by
  fun_induction ofText fresh t with
  | case1 => cases h
  | case2 fresh c rest step ih =>
    rcases List.mem_cons.mp h with rfl | h
    · exact ⟨(cuts_front fresh c rest).2, sound_front fresh c rest⟩
    · exact ih h

theorem sound_here (h : ofText true source = before ++ l :: after) : l.text ≠ [] ∧ Sound l :=
  sound_of_mem (h ▸ List.mem_append_right _ List.mem_cons_self)

/-- The text under a lexeme. -/
theorem textOf_here (h : ofText true source = before ++ l :: after) :
    width before + l.text.length ≤ source.length ∧
      Span.textOf ⟨width before, l.text.length⟩ source = l.text := by
  have hsource := flatMap_text_ofText true source
  rw [h, List.flatMap_append, List.flatMap_cons] at hsource
  constructor
  · have hlength := congrArg List.length hsource
    simp only [List.length_append] at hlength
    rw [width]
    omega
  · rw [Span.textOf, Text.slice, ← hsource, width, List.drop_left, List.take_left]

/-- The character of a lexeme that has one. -/
theorem getElem?_here {c : Char} (h : ofText true source = before ++ l :: after)
    (htext : l.text = [c]) : source[width before]? = some c := by
  have hsource := flatMap_text_ofText true source
  rw [h, List.flatMap_append, List.flatMap_cons, htext] at hsource
  rw [← hsource, width, List.getElem?_append_right (Nat.le_refl _), Nat.sub_self]
  rfl

theorem mem_tokens_iff {t : Token} : t ∈ place tokensAt 0 (ofText true source) ↔
    ∃ before kind text flaw after, ofText true source = before ++ .token kind text flaw :: after ∧
      t = Token.ofLexeme kind text (width before) := by
  rw [mem_place_zero_iff]
  constructor
  · rintro ⟨before, l, after, hsplit, ht⟩
    rcases l with c | c | ⟨kind, text, flaw⟩
    · cases ht
    · cases ht
    · exact ⟨before, kind, text, flaw, after, hsplit, List.mem_singleton.mp ht⟩
  · rintro ⟨before, kind, text, flaw, after, hsplit, rfl⟩
    exact ⟨before, _, after, hsplit, List.mem_singleton_self _⟩

/-- What starts where a lexeme does comes from it. -/
theorem filter_here {α : Type} {yield : Nat → Lexeme → List α} {span : α → Span}
    (hspans : SpansLexemes span yield) (h : ofText true source = before ++ l :: after) :
    (place yield 0 (ofText true source)).filter (fun x => (span x).contains (width before))
      = yield (width before) l := by
  have hpos := List.length_pos_iff.mpr (sound_here h).1
  rw [h]
  exact filter_contains_place hspans (Nat.le_refl _) (Nat.lt_add_of_pos_right hpos)

/-- Where a lexeme is no token, no token is. -/
theorem uncovered_here (h : ofText true source = before ++ l :: after)
    (htoken : tokensAt (width before) l = []) :
    Uncovered (place tokensAt 0 (ofText true source)) (width before) :=
  List.filter_eq_nil_iff.mp ((filter_here spansLexemes_tokensAt h).trans htoken)

/-- An offset under no token is that of a blank or of a stray character. -/
theorem exists_of_uncovered {offset : Nat} {c : Char} (hc : source[offset]? = some c)
    (h : Uncovered (place tokensAt 0 (ofText true source)) offset) :
    ∃ before l after, ofText true source = before ++ l :: after ∧ width before = offset ∧
      (l = .blank c ∨ l = .stray c) := by
  have hlt : offset < width (ofText true source) := by
    rw [width_ofText]
    exact (List.getElem?_eq_some_iff.mp hc).1
  obtain ⟨before, l, after, hsplit, hle, hlt⟩ := exists_lexeme_at hlt
  have hsingle {d : Char} (hl : l.text = [d]) : width before = offset ∧ d = c := by
    have hoffset : width before = offset := by
      rw [hl, List.length_singleton] at hlt
      omega
    have hd := getElem?_here hsplit hl
    rw [hoffset, hc] at hd
    exact ⟨hoffset, (Option.some.inj hd).symm⟩
  rcases l with d | d | ⟨kind, text, flaw⟩
  · obtain ⟨hoffset, rfl⟩ := hsingle rfl
    exact ⟨before, _, after, hsplit, hoffset, Or.inl rfl⟩
  · obtain ⟨hoffset, rfl⟩ := hsingle rfl
    exact ⟨before, _, after, hsplit, hoffset, Or.inr rfl⟩
  · have ht : Token.ofLexeme kind text (width before) ∈ place tokensAt 0 (ofText true source) :=
      mem_tokens_iff.mpr ⟨before, kind, text, flaw, after, hsplit, rfl⟩
    exact absurd (Span.contains_iff.mpr ⟨hle, hlt⟩) (h _ ht)

theorem mem_errors_iff {d : Diagnostic} : d ∈ place errorsAt 0 (ofText true source) ↔
    (∃ offset c, source[offset]? = some c ∧
      Uncovered (place tokensAt 0 (ofText true source)) offset ∧ isBlank c = false ∧
      d = ⟨errorId, ⟨offset, 1⟩, strayMessage c, .error⟩) ∨
    ∃ t ∈ place tokensAt 0 (ofText true source), ∃ flaw, Lacks t.kind t.lexeme flaw ∧
      d = ⟨errorId, t.span, flaw.message, .error⟩ := by
  constructor
  · intro h
    obtain ⟨before, l, after, hsplit, hd⟩ := mem_place_zero_iff.mp h
    have hsound := (sound_here hsplit).2
    rcases l with c | c | ⟨kind, text, _ | flaw⟩
    · cases hd
    · cases hsound with
      | stray hc => exact Or.inl ⟨width before, c, getElem?_here hsplit rfl,
          uncovered_here hsplit rfl, hc, List.mem_singleton.mp hd⟩
    · cases hd
    · cases hsound with
      | token _ hflaw => exact Or.inr ⟨_, mem_tokens_iff.mpr ⟨before, kind, text, _, after, hsplit,
          rfl⟩, flaw, (hflaw flaw).mp rfl, List.mem_singleton.mp hd⟩
  · rintro (⟨offset, c, hc, huncovered, hblank, rfl⟩ | ⟨t, ht, flaw, hlacks, rfl⟩)
    · obtain ⟨before, l, after, hsplit, rfl, rfl | rfl⟩ := exists_of_uncovered hc huncovered
      · cases (sound_here hsplit).2 with
        | blank h => exact absurd (hblank.symm.trans h) (by decide)
      · exact mem_place_zero_iff.mpr ⟨before, _, after, hsplit, List.mem_singleton_self _⟩
    · obtain ⟨before, kind, text, own, after, hsplit, rfl⟩ := mem_tokens_iff.mp ht
      cases (sound_here hsplit).2 with
      | token _ hflaw =>
        obtain rfl : own = some flaw := (hflaw flaw).mpr hlacks
        exact mem_place_zero_iff.mpr ⟨before, _, after, hsplit, List.mem_singleton_self _⟩

/-- Errors about different places are in ascending order. -/
theorem pairwise_errors (source : Text) : (place errorsAt 0 (ofText true source)).Pairwise
    fun a b => a.span.start < b.span.start := by
  refine (pairwise_place spansLexemes_errorsAt 0 _).imp_of_mem fun {a b} ha _ hab => ?_
  obtain ⟨before, l, after, hsplit, ha⟩ := mem_place_zero_iff.mp ha
  have hspan := span_of_mem_yield spansLexemes_errorsAt ha
  have hpos := List.length_pos_iff.mpr (sound_here hsplit).1
  rw [hspan] at hab ⊢
  simp only [Span.stop_mk] at hab ⊢
  omega

end Lexeme

open Lexeme in
/-- **Lexing loses nothing.** The tokens of a source end with the one for the end of the text; the
others and the errors account for every character. -/
theorem tokenize_accounts (source : Text) : ∃ tokens,
    tokenize source = tokens ++ [⟨.eof, [], ⟨source.length, 0⟩⟩] ∧
      Accounts source tokens (lexicalErrors source) := by
  refine ⟨place tokensAt 0 (ofText true source), rfl, ?_, ?_, ?_, ?_, ?_, ?_⟩
  · intro t ht
    obtain ⟨before, kind, text, flaw, after, hsplit, rfl⟩ := mem_tokens_iff.mp ht
    obtain ⟨hne, hsound⟩ := sound_here hsplit
    cases hsound with
    | token hkind _ => exact ⟨hkind, List.length_pos_iff.mpr hne⟩
  · intro t ht
    obtain ⟨before, kind, text, flaw, after, hsplit, rfl⟩ := mem_tokens_iff.mp ht
    obtain ⟨hstop, htext⟩ := textOf_here hsplit
    exact ⟨hstop, htext.symm⟩
  · exact pairwise_place spansLexemes_tokensAt 0 _
  · intro offset c hc huncovered
    obtain ⟨before, l, after, hsplit, rfl, hl⟩ := exists_of_uncovered hc huncovered
    have hsound := (sound_here hsplit).2
    rw [lexicalErrors, filter_here spansLexemes_errorsAt hsplit]
    rcases hl with rfl | rfl
    · cases hsound with
      | blank h => rw [h]; rfl
    · cases hsound with
      | stray h => rw [h]; rfl
  · intro d
    exact mem_errors_iff
  · exact pairwise_errors source

end Assay
