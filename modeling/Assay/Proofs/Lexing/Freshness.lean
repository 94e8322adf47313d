import Assay.Proofs.Lexing.Ends
import Assay.Proofs.Lexing.Reprint
import Assay.Proofs.Lines.Starts

/-!
# Tokens and lines

The scan that cuts a source into lexemes ends a line in several places: at the end of a directive, of
a line comment, of a quoted text, and where it makes the line fresh again. This module says that they
all mean the lines that are counted by their starts (`tokens_keep_to_lines`). No token but a block
comment has a line break in it (`onOneLine_front`), so that it is on one line. And the flag that the
scan carries along says whether the line is fresh behind the lexemes so far (`fresh_before_iff`): a
blank keeps it so, a line break makes it so, and every other lexeme has a character that is no blank
on its last line (`Inked`). A block comment may have line breaks, but if anything is behind it, it
ends with a slash.
-/

namespace Assay

namespace Lexeme

variable {fresh : Bool} {source t : Text} {before after : List Lexeme} {l : Lexeme}

/-! ## Tokens on one line -/

/-- Whether a lexeme has no line break, if it is a token and no block comment. -/
def OnOneLine : Lexeme → Prop
  | .token kind text _ => Unbroken text ∨ kind = .comment ∧ ['/', '*'] <+: text
  | _ => True

theorem onOneLine_run (kind : Text → TokenKind) {continues : Char → Bool} {c : Char}
    (hline : ∀ d, continues d = true → isLineBreak d = false) (hc : isLineBreak c = false)
    (rest : Text) : OnOneLine (run kind continues c rest).1 :=
  Or.inl (unbroken_cons.mpr ⟨hc, fun d hd => hline d (List.mem_takeWhile_imp hd)⟩)

theorem unbroken_takeQuoted {quote : Char} (hquote : isLineBreak quote = false) (t : Text) :
    Unbroken (takeQuoted quote t).1 := by
  induction t using takeQuoted_induction quote with
  | nil => exact unbroken_nil
  | pair t ih =>
    rw [takeQuoted_pair]
    exact unbroken_cons.mpr ⟨hquote, unbroken_cons.mpr ⟨hquote, ih⟩⟩
  | close t h =>
    rw [takeQuoted_close h]
    exact unbroken_cons.mpr ⟨hquote, unbroken_nil⟩
  | stop c t hc h =>
    rw [takeQuoted_break hc h]
    exact unbroken_nil
  | other c t hc h ih =>
    rw [takeQuoted_other hc h]
    exact unbroken_cons.mpr ⟨Bool.of_not_eq_true h, ih⟩

theorem onOneLine_slash (rest : Text) : OnOneLine (slash rest).1 := by
  rcases slash_cases rest with ⟨t, rfl⟩ | ⟨t, rfl⟩ | ⟨hline, hblock⟩
  · exact onOneLine_run _ (by simp) rfl _
  · exact Or.inr ⟨rfl, by simp⟩
  · rw [slash_plain hline hblock]
    exact Or.inl (unbroken_of_any rfl)

theorem onOneLine_operator {c : Char} (hc : isLineBreak c = false) (rest : Text) :
    OnOneLine (operator c rest).1 := by
  have hsingle : Unbroken [c] := unbroken_cons.mpr ⟨hc, unbroken_nil⟩
  unfold operator
  split
  case h_5 => split <;> first | exact Or.inl hsingle | exact True.intro
  all_goals exact Or.inl (unbroken_of_any rfl)

/-- **No token but a block comment has a line break in it.** -/
theorem onOneLine_front (fresh : Bool) (c : Char) : ∀ rest, OnOneLine (front fresh c rest).1 := by
  refine front_induction (motive := fun scan => ∀ rest, OnOneLine (scan rest).1) fresh c
    ?_ ?_ ?_ ?_ ?_ ?_ ?_ ?_
  · intro _ _
    exact True.intro
  · rintro rfl
    exact onOneLine_slash
  · rintro rfl _ rest
    exact onOneLine_run _ (by simp) rfl rest
  · rintro rfl rest
    exact Or.inl (unbroken_cons.mpr ⟨rfl, unbroken_takeQuoted rfl rest⟩)
  · rintro rfl rest
    exact Or.inl (unbroken_cons.mpr ⟨rfl, unbroken_takeQuoted rfl rest⟩)
  · intro hc rest
    have hline (d : Char) (hd : isDigit d = true) : isLineBreak d = false :=
      not_isLineBreak_of_class (by decide) (by decide) hd
    exact onOneLine_run _ hline (hline c hc) rest
  · intro hc rest
    have hline (d : Char) (hd : continuesWord d = true) : isLineBreak d = false :=
      not_isLineBreak_of_class (by decide) (by decide) hd
    exact onOneLine_run _ hline (not_isLineBreak_of_class (by decide) (by decide) hc) rest
  · intro hblank _ rest
    refine onOneLine_operator ?_ rest
    by_contra hlineBreak
    exact hblank (isBlank_of_isLineBreak (Bool.of_not_eq_false hlineBreak))

theorem onOneLine_of_mem (h : l ∈ ofText fresh t) : OnOneLine l := by
  fun_induction ofText fresh t with
  | case1 => cases h
  | case2 fresh c rest step ih =>
    rcases List.mem_cons.mp h with rfl | h
    · exact onOneLine_front fresh c rest
    · exact ih h

/-! ## Fresh lines -/

/-- Whether a lexeme has a character that is no blank on its last line, if it is not blank itself. -/
def Inked : Lexeme → Prop
  | .blank c => isBlank c = true
  | l => ∃ front c behind, l.text = front ++ c :: behind ∧ isBlank c = false ∧ Unbroken behind

/-- A token starts with a character that is no blank. -/
theorem exists_head_of_token {c : Char} {rest text : Text} {kind : TokenKind} {flaw : Option Flaw}
    (h : (front fresh c rest).1 = .token kind text flaw) :
    isBlank c = false ∧ ∃ own, text = c :: own := by
  constructor
  · by_contra hblank
    rw [front, if_pos (Bool.of_not_eq_false hblank)] at h
    cases h
  · obtain ⟨own, hown, -⟩ := (isScan_front fresh c).rereads rest
    rw [h] at hown
    exact ⟨own, hown⟩

/-- All that is not open at its end is inked. -/
theorem inked_front {c : Char} {rest : Text} (hruns : (front fresh c rest).1.runsOn = false) :
    Inked (front fresh c rest).1 := by
  have hsound := sound_front fresh c rest
  have hline := onOneLine_front fresh c rest
  cases hl : (front fresh c rest).1 with
  | blank d =>
    rw [hl] at hsound
    cases hsound with
    | blank hd => exact hd
  | stray d =>
    rw [hl] at hsound
    cases hsound with
    | stray hd => exact ⟨[], d, [], rfl, hd, unbroken_nil⟩
  | token kind text flaw =>
    obtain ⟨hc, own, rfl⟩ := exists_head_of_token hl
    rw [hl] at hruns hsound hline
    rcases hline with hunbroken | ⟨rfl, hopening⟩
    · exact ⟨[], c, own, rfl, hc, (unbroken_cons.mp hunbroken).2⟩
    · cases hsound with
      | token _ hflaw =>
        -- a comment that does not lack its closing delimiter ends with it
        have hclosed : ∃ body, c :: own = ['/', '*'] ++ body ++ ['*', '/'] := by
          by_contra hopen
          have hlacks := (hflaw .openComment).mpr
            (.comment hopening fun body hbody => hopen ⟨body, hbody⟩)
          rw [hlacks] at hruns
          cases hruns
        obtain ⟨body, hbody⟩ := hclosed
        refine ⟨['/', '*'] ++ body ++ ['*'], '/', [], ?_, by decide, unbroken_nil⟩
        simpa [text] using hbody

theorem inked_of_mem (h : l ∈ ofText fresh t) (hruns : l.runsOn = false) : Inked l := by
  fun_induction ofText fresh t with
  | case1 => cases h
  | case2 fresh c rest step ih =>
    rcases List.mem_cons.mp h with rfl | h
    · exact inked_front hruns
    · exact ih h

/-- **What a lexeme makes of a line**, the flag of the scan follows. -/
theorem keepsFresh_iff (hl : Inked l) (h : fresh = true ↔ FreshAfter t) :
    keepsFresh fresh l = true ↔ FreshAfter (t ++ l.text) := by
  cases l with
  | blank c =>
    have hc : isBlank c = true := hl
    rw [keepsFresh, text, freshAfter_concat, Bool.or_eq_true, h]
    simp [hc]
  | stray c | token kind text flaw =>
    obtain ⟨front, c, behind, htext, hc, hbehind⟩ := hl
    rw [htext, ← List.append_assoc]
    exact iff_of_false Bool.false_ne_true (not_freshAfter_of_not_blank hc hbehind)

theorem foldl_keepsFresh_iff (hbefore : ∀ l ∈ before, Inked l) (h : fresh = true ↔ FreshAfter t) :
    before.foldl keepsFresh fresh = true ↔ FreshAfter (t ++ before.flatMap text) := by
  induction before generalizing fresh t with
  | nil => simpa using h
  | cons l before ih =>
    obtain ⟨hl, hbefore⟩ := List.forall_mem_cons.mp hbefore
    rw [List.foldl_cons, List.flatMap_cons, ← List.append_assoc]
    exact ih hbefore (keepsFresh_iff hl h)

/-- **The flag of the scan says whether the line is fresh** in front of a lexeme. -/
theorem fresh_before_iff (h : ofText true source = before ++ l :: after) :
    before.foldl keepsFresh true = true ↔ FreshAfter (source.take (width before)) := by
  have hpairwise := pairwise_runsOn true source
  rw [h, List.pairwise_append] at hpairwise
  have hinked : ∀ m ∈ before, Inked m := fun m hm =>
    inked_of_mem (h ▸ List.mem_append_left _ hm) (hpairwise.2.2 m hm l List.mem_cons_self)
  have hsource := flatMap_text_ofText true source
  rw [h, List.flatMap_append] at hsource
  have htake : source.take (width before) = before.flatMap text := by
    rw [← hsource, width, List.take_left]
  rw [htake, foldl_keepsFresh_iff hinked (iff_of_true rfl freshAfter_nil), List.nil_append]

/-! ## Number signs -/

theorem front_numberSign (fresh : Bool) (rest : Text) : front fresh '#' rest
    = if fresh then run (fun _ => .directive) (!isLineBreak ·) '#' rest else (.stray '#', rest) := by
  cases fresh <;> rfl

/-- **A lexeme that starts with a number sign** is a directive or a stray character. -/
theorem lexeme_of_numberSign {own : Text} (h : ofText true source = before ++ l :: after)
    (hl : l.text = '#' :: own) :
    l = if before.foldl keepsFresh true
      then .token .directive ((source.drop (width before)).takeWhile (!isLineBreak ·)) none
      else .stray '#' := by
  have hsource := flatMap_text_ofText true source
  rw [h, List.flatMap_append, List.flatMap_cons, hl] at hsource
  have hdrop : source.drop (width before) = '#' :: (own ++ after.flatMap text) := by
    rw [← hsource, width, List.drop_left]
    rfl
  have hbehind := ofText_of_append h
  rw [List.flatMap_cons, hl, List.cons_append, ofText_cons, front_numberSign] at hbehind
  rw [(List.cons.inj hbehind).1, hdrop]
  cases before.foldl keepsFresh true <;> rfl

end Lexeme

open Lexeme

/-! ## Lines of tokens -/

/-- A comment with delimiters, which may have line breaks in it. -/
def Token.IsBlockComment (t : Token) : Prop := t.kind = .comment ∧ ['/', '*'] <+: t.lexeme

/-- A span stops where its line does: in front of the first line break, or at the end of the text. -/
structure Span.RunsToLineEnd (s : Span) (t : Text) : Prop where
  unbroken : ∀ k c, s.start ≤ k → k < s.stop → t[k]? = some c → isLineBreak c = false
  ends : s.stop = t.length ∨ ∃ c, t[s.stop]? = some c ∧ isLineBreak c = true

/-- What is taken up to a line break runs to the end of its line. -/
theorem runsToLineEnd_takeWhile {source : Text} {offset : Nat} (h : offset ≤ source.length) :
    Span.RunsToLineEnd ⟨offset, ((source.drop offset).takeWhile (!isLineBreak ·)).length⟩ source := by
  have hsplit := (source.drop offset).takeWhile_append_dropWhile (p := (!isLineBreak ·))
  constructor
  · intro k c hle hlt hc
    obtain ⟨i, rfl⟩ : ∃ i, k = offset + i := Nat.exists_eq_add_of_le hle
    have hi : i < ((source.drop offset).takeWhile (!isLineBreak ·)).length :=
      Nat.lt_of_add_lt_add_left hlt
    rw [← List.getElem?_drop, ← hsplit, List.getElem?_append_left hi] at hc
    simpa using List.mem_takeWhile_imp (List.mem_of_getElem? hc)
  · rw [Span.stop_mk, ← List.getElem?_drop]
    cases hrest : (source.drop offset).dropWhile (!isLineBreak ·) with
    | nil =>
      rw [hrest, List.append_nil] at hsplit
      rw [hsplit, List.length_drop]
      exact Or.inl (by omega)
    | cons c rest =>
      have hstop := List.head?_dropWhile_not (!isLineBreak ·) (source.drop offset)
      rw [hrest] at hstop
      refine Or.inr ⟨c, ?_, by simpa using hstop⟩
      rw [hrest] at hsplit
      generalize (source.drop offset).takeWhile (!isLineBreak ·) = taken at hsplit ⊢
      rw [← hsplit, List.getElem?_append_right (Nat.le_refl _), Nat.sub_self]
      rfl

/-- A token of a source that is no block comment is on one line. -/
theorem lineOf_eq_of_mem_tokenize {source : Text} {t : Token} (ht : t ∈ tokenize source)
    (hblock : ¬ t.IsBlockComment) {offset : Nat} (hoffset : t.span.contains offset = true) :
    lineOf source offset = lineOf source t.span.start := by
  rw [Span.contains_iff] at hoffset
  rcases List.mem_append.mp ht with ht | ht
  · obtain ⟨before, kind, text, flaw, after, hsplit, rfl⟩ := mem_tokens_iff.mp ht
    have hline : OnOneLine (.token kind text flaw) :=
      onOneLine_of_mem (hsplit ▸ List.mem_append_right _ List.mem_cons_self)
    have hunbroken : Unbroken text := hline.resolve_right hblock
    have hsource := flatMap_text_ofText true source
    rw [hsplit, List.flatMap_append, List.flatMap_cons, ← List.append_assoc] at hsource
    obtain ⟨k, rfl⟩ := Nat.exists_eq_add_of_le hoffset.1
    have hk : k < text.length := by
      have hlt := hoffset.2
      simp only [Token.ofLexeme, Span.stop_mk] at hlt
      omega
    rw [← hsource]
    exact lineOf_eq_of_unbroken hunbroken hk
  · -- no offset is in the end of the text
    rw [List.mem_singleton.mp ht] at hoffset
    simp only [Token.ofLexeme, Span.stop_mk, List.length_nil] at hoffset
    omega

/-- A number sign that is not inside of a token starts a lexeme. -/
theorem exists_lexeme_of_numberSign {source : Text} {offset : Nat} (h : source[offset]? = some '#')
    (houtside : ∀ t ∈ tokenize source, ¬ (t.span.start < offset ∧ offset < t.span.stop)) :
    ∃ before l after own, ofText true source = before ++ l :: after ∧ width before = offset ∧
      l.text = '#' :: own := by
  have hlt : offset < width (ofText true source) := by
    rw [width_ofText]
    exact (List.getElem?_eq_some_iff.mp h).1
  obtain ⟨before, l, after, hsplit, hle, hlt⟩ := exists_lexeme_at hlt
  have hwidth : width before = offset := by
    rcases l with c | c | ⟨kind, text, flaw⟩
    · exact Nat.le_antisymm hle (Nat.le_of_lt_succ hlt)
    · exact Nat.le_antisymm hle (Nat.le_of_lt_succ hlt)
    · by_contra hne
      have hmem := mem_tokens_iff.mpr ⟨before, kind, text, flaw, after, hsplit, rfl⟩
      exact houtside _ (List.mem_append_left _ hmem) ⟨Nat.lt_of_le_of_ne hle hne, hlt⟩
  obtain ⟨c, own, htext⟩ := List.exists_cons_of_ne_nil (sound_here hsplit).1
  refine ⟨before, l, after, own, hsplit, hwidth, ?_⟩
  have hsource := flatMap_text_ofText true source
  rw [hsplit, List.flatMap_append, List.flatMap_cons, htext] at hsource
  rw [← hsource, ← hwidth, width, List.getElem?_append_right (Nat.le_refl _), Nat.sub_self] at h
  rw [htext, Option.some.inj h]

/-- A number sign that starts a directive is not reported, and the directive takes its line. -/
theorem directive_here {source : Text} {before after : List Lexeme}
    (hoffset : width before ≤ source.length)
    (h : ofText true source = before ++ .token .directive
      ((source.drop (width before)).takeWhile (!isLineBreak ·)) none :: after) :
    (∃ t ∈ tokenize source, t.kind = .directive ∧ t.span.start = width before ∧
      t.span.RunsToLineEnd source) ∧
    ⟨errorId, ⟨width before, 1⟩, strayMessage '#', .error⟩ ∉ lexicalErrors source := by
  constructor
  · have hmem := mem_tokens_iff.mpr ⟨before, _, _, _, after, h, rfl⟩
    exact ⟨_, List.mem_append_left _ hmem, rfl, rfl, runsToLineEnd_takeWhile hoffset⟩
  · intro hreported
    have hnone := List.filter_eq_nil_iff.mp (filter_here spansLexemes_errorsAt h)
    exact hnone _ hreported (Span.contains_iff.mpr ⟨Nat.le_refl _, Nat.lt_succ_self _⟩)

/-- A number sign that is a stray character is reported, and starts no token. -/
theorem stray_here {source : Text} {before after : List Lexeme}
    (h : ofText true source = before ++ .stray '#' :: after) :
    (∀ t ∈ tokenize source, t.span.start = width before → t.kind = .eof) ∧
    ⟨errorId, ⟨width before, 1⟩, strayMessage '#', .error⟩ ∈ lexicalErrors source := by
  constructor
  · intro t ht hstart
    rcases List.mem_append.mp ht with ht | ht
    · refine absurd ?_ (uncovered_here h rfl t ht)
      obtain ⟨before', kind, text, flaw, after', hsplit, rfl⟩ := mem_tokens_iff.mp ht
      have hpos := List.length_pos_iff.mpr (sound_here hsplit).1
      exact Span.contains_iff.mpr ⟨Nat.le_of_eq hstart, hstart ▸ Nat.lt_add_of_pos_right hpos⟩
    · rw [List.mem_singleton.mp ht]
      rfl
  · exact mem_place_zero_iff.mpr ⟨before, _, after, h, List.mem_singleton_self _⟩

/-- **Tokens keep to the lines of their source.** Every token but a block comment is on one line. A
number sign that is not inside of a token starts a directive, which runs to the end of the line, if
only blanks stand before it on its line, and else it is reported as a stray character. -/
theorem tokens_keep_to_lines (source : Text) :
    (∀ t ∈ tokenize source, ¬ t.IsBlockComment → ∀ offset : Nat, t.span.contains offset = true →
      lineOf source offset = lineOf source t.span.start) ∧
    ∀ offset : Nat, source[offset]? = some '#' →
      (∀ t ∈ tokenize source, ¬ (t.span.start < offset ∧ offset < t.span.stop)) →
      ((∃ t ∈ tokenize source, t.kind = .directive ∧ t.span.start = offset ∧
        t.span.RunsToLineEnd source) ↔ OpensLine source offset) ∧
      (⟨errorId, ⟨offset, 1⟩, strayMessage '#', .error⟩ ∈ lexicalErrors source ↔
        ¬ OpensLine source offset) := by
  refine ⟨fun t ht hblock offset => lineOf_eq_of_mem_tokenize ht hblock, ?_⟩
  intro offset hsign houtside
  have hlt : offset < source.length := (List.getElem?_eq_some_iff.mp hsign).1
  obtain ⟨before, l, after, own, hsplit, rfl, htext⟩ := exists_lexeme_of_numberSign hsign houtside
  have hl := lexeme_of_numberSign hsplit htext
  have hopens : before.foldl keepsFresh true = true ↔ OpensLine source (width before) := by
    rw [fresh_before_iff hsplit, opensLine_iff_freshAfter (Nat.le_of_lt hlt) (by simp [hsign])]
  cases hfresh : before.foldl keepsFresh true with
  | true =>
    have hopen : OpensLine source (width before) := hopens.mp hfresh
    rw [hfresh, if_pos rfl] at hl
    obtain ⟨hdirective, hunreported⟩ := directive_here (Nat.le_of_lt hlt) (hl ▸ hsplit)
    exact ⟨iff_of_true hdirective hopen, iff_of_false hunreported (not_not_intro hopen)⟩
  | false =>
    have hclosed : ¬ OpensLine source (width before) := fun hopen => by
      rw [hopens.mpr hopen] at hfresh
      cases hfresh
    rw [hfresh, if_neg Bool.false_ne_true] at hl
    obtain ⟨hnothing, hreported⟩ := stray_here (hl ▸ hsplit)
    refine ⟨iff_of_false ?_ hclosed, iff_of_true hreported hclosed⟩
    rintro ⟨t, ht, hkind, hstart, -⟩
    rw [hnothing t ht hstart] at hkind
    cases hkind

/-- A comment over two lines, with a number sign behind it, and a line with a directive. -/
def commentAndDirective : Text := "/*\r*/#a\r\n\t#b".toList

/-- The number sign behind a comment does not open its line, although the comment has a line break in
it, and the one behind the tab does. -/
theorem tokens_keep_to_lines_comment :
    ⟨errorId, ⟨5, 1⟩, strayMessage '#', .error⟩ ∈ lexicalErrors commentAndDirective ∧
    ∃ t ∈ tokenize commentAndDirective, t.kind = .directive ∧ t.span.start = 10 ∧
      t.span.RunsToLineEnd commentAndDirective := by
  obtain ⟨-, hsigns⟩ := tokens_keep_to_lines commentAndDirective
  constructor
  · exact (hsigns 5 (by decide) (by decide +kernel)).2.mpr (by decide +kernel)
  · exact (hsigns 10 (by decide) (by decide +kernel)).1.mpr (by decide +kernel)

end Assay
