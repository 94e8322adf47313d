import Assay.Proofs.Lexing.Ends

/-!
# Identifiers in quotes

An identifier can be put in quotes where it stands, if no quote stands next to it
(`tokenize_quote`, `lexicalErrors_quote`). The lexeme in front of it does not go on over the quote,
since it does not go on over the identifier (`not_takes_quote`). The quotes hold nothing but
characters of a word, so they are read as one token, and behind a token the line is as little fresh
as before. So the lexemes behind the identifier are the same (`ofText_quote`).
-/

namespace Assay

namespace Lexeme

/-! ## Words -/

theorem isWord_of_ofCharacter? {c : Char} {kind : TokenKind}
    (h : TokenKind.ofCharacter? c = some kind) : kind.isWord = false := by
  unfold TokenKind.ofCharacter? at h
  split at h <;> cases h <;> rfl

/-- Keywords and identifiers come from the scan of words alone. -/
theorem run_of_isWord (fresh : Bool) (c : Char) : ∀ rest kind text flaw,
    (front fresh c rest).1 = .token kind text flaw → kind.isWord = true →
      startsWord c = true ∧ front fresh c = run TokenKind.ofWord continuesWord c := by
  refine front_induction (motive := fun scan => ∀ rest kind text flaw,
    (scan rest).1 = .token kind text flaw → kind.isWord = true →
      startsWord c = true ∧ scan = run TokenKind.ofWord continuesWord c) fresh c
    ?_ ?_ ?_ ?_ ?_ ?_ ?_ ?_
  · intro _ rest kind text flaw h
    cases h
  · intro _ rest kind text flaw h hkind
    rcases slash_cases rest with ⟨t, rfl⟩ | ⟨t, rfl⟩ | ⟨hline, hblock⟩
    · cases h
      cases hkind
    · cases h
      cases hkind
    · rw [slash_plain hline hblock] at h
      cases h
      cases hkind
  · intro _ _ rest kind text flaw h hkind
    cases h
    cases hkind
  · intro _ rest kind text flaw h hkind
    cases h
    cases hkind
  · intro _ rest kind text flaw h hkind
    cases h
    cases hkind
  · intro _ rest kind text flaw h hkind
    cases h
    cases hkind
  · intro hc rest kind text flaw _ _
    exact ⟨hc, rfl⟩
  · intro _ _ rest kind text flaw h hkind
    by_cases hcolon : c = ':'
    · subst hcolon
      unfold operator at h
      split at h <;> cases h <;> cases hkind
    by_cases hdot : c = '.'
    · subst hdot
      unfold operator at h
      split at h <;> cases h <;> cases hkind
    rw [operator_single hcolon hdot, alone] at h
    split at h
    next _ hcharacter =>
      cases h
      rw [isWord_of_ofCharacter? hcharacter] at hkind
      cases hkind
    next => cases h

variable {source t : Text} {before after : List Lexeme} {word : Text} {flaw : Option Flaw}

/-- The characters of an identifier are those of a word. -/
theorem word_of_identifier {fresh : Bool}
    (h : ofText fresh t = .token .identifier word flaw :: after) : flaw = none ∧
      ∃ c own, word = c :: own ∧ startsWord c = true ∧ ∀ d ∈ own, continuesWord d = true := by
  obtain ⟨c, own, hword, hfront⟩ := front_of_cons h
  obtain ⟨hc, hrun⟩ := run_of_isWord fresh c _ _ _ _ (congrArg Prod.fst hfront) rfl
  rw [hrun] at hfront
  obtain ⟨hlexeme, -⟩ := Prod.mk.inj hfront
  obtain ⟨-, rfl, rfl⟩ := Lexeme.token.inj hlexeme
  exact ⟨rfl, c, _, rfl, hc, fun _ => List.mem_takeWhile_imp⟩

theorem continuesWord_of_startsWord {c : Char} (h : startsWord c = true) :
    continuesWord c = true := by
  rw [startsWord, Bool.or_eq_true] at h
  rw [continuesWord, Bool.or_eq_true]
  exact h.imp_left isAlphanumeric_of_isLetter

/-- A character of a word is neither a quote nor a line break. -/
theorem ne_quote_of_continuesWord {c : Char} (h : continuesWord c = true) :
    c ≠ '"' ∧ isLineBreak c = false := by
  refine ⟨?_, not_isLineBreak_of_class (by decide) (by decide) h⟩
  rintro rfl
  cases h

/-! ## Quotes around a word -/

/-- Characters of a word between quotes are read up to the second one. -/
theorem takeQuoted_word {b : Text} (hword : ∀ d ∈ word, continuesWord d = true)
    (hb : b.head? ≠ some '"') : takeQuoted '"' (word ++ '"' :: b) = (word ++ ['"'], true, b) := by
  induction word with
  | nil => exact takeQuoted_close hb
  | cons d word ih =>
    obtain ⟨hd, hword⟩ := List.forall_mem_cons.mp hword
    obtain ⟨hquote, hbreak⟩ := ne_quote_of_continuesWord hd
    rw [List.cons_append, takeQuoted_other hquote (Bool.eq_false_iff.mp hbreak), ih hword]
    rfl

/-- A closed identifier in quotes ends with a quote. -/
theorem getLast?_of_quotedIdentifier
    (h : ofText true source = before ++ .token .quotedIdentifier t none :: after) :
    t.getLast? = some '"' := by
  cases (sound_here h).2 with
  | token _ hflaw =>
    by_contra hlast
    have hlacks : Lacks .quotedIdentifier t .openIdentifier := by
      refine .quotedIdentifier fun content hcontent => hlast ?_
      rw [hcontent, List.getLast?_concat]
    cases (hflaw _).mpr hlacks

/-- The lexeme of an identifier in quotes. -/
def inQuotes (word : Text) : Lexeme := .token .quotedIdentifier ('"' :: word ++ ['"']) none

/-- **Quotes around an identifier leave all other lexemes alone**, if no quote stands next to it. -/
theorem ofText_quote (h : ofText true source = before ++ .token .identifier word flaw :: after)
    (hbefore : (before.flatMap text).getLast? ≠ some '"')
    (hafter : (after.flatMap text).head? ≠ some '"') :
    ofText true (before.flatMap text ++ '"' :: (word ++ '"' :: after.flatMap text))
      = before ++ inQuotes word :: after := by
  obtain ⟨-, c, own, rfl, hc, hown⟩ := word_of_identifier (ofText_of_append h).symm
  have hword : ∀ d ∈ c :: own, continuesWord d = true :=
    List.forall_mem_cons.mpr ⟨continuesWord_of_startsWord hc, hown⟩
  have hlast : ∀ l ∈ before.getLast?, l.takes '"' = false := by
    intro l hl
    obtain ⟨earlier, rfl⟩ := List.getLast?_eq_some_iff.mp hl
    rw [List.append_assoc] at h
    have hends : l.takes c = false := not_takes_of_append h rfl
    have hbreak : isLineBreak c = false :=
      (ne_quote_of_continuesWord (continuesWord_of_startsWord hc)).2
    refine not_takes_of_closed hbreak hends rfl rfl (by decide) fun _ t => ?_
    rintro rfl
    refine hbefore ?_
    rw [List.flatMap_append, List.flatMap_singleton, List.getLast?_append]
    rw [show text (.token .quotedIdentifier t none) = t from rfl, getLast?_of_quotedIdentifier h]
    rfl
  have hbehind : after = ofText false (after.flatMap text) := by
    have hsplit : ofText true source
        = (before ++ [.token .identifier (c :: own) flaw]) ++ after := by simpa using h
    simpa [keepsFresh] using ofText_of_append hsplit
  have hfront (fresh : Bool) (rest : Text) : front fresh '"' rest
      = quotedToken .quotedIdentifier .openIdentifier '"' rest := by cases fresh <;> rfl
  rw [ofText_append_cons h hlast, ofText_cons, hfront, quotedToken, takeQuoted_word hword hafter]
  exact congrArg (before ++ inQuotes (c :: own) :: ·) hbehind.symm

/-- What is read off the lexemes around one, with another one in its place that is longer. -/
theorem place_exchange {α : Type} {yield : Nat → Lexeme → List α} {move : α → α} {distance : Nat}
    (hmove : ∀ offset l, yield (offset + distance) l = (yield offset l).map move)
    (before after : List Lexeme) {l l' : Lexeme} (hlength : l'.text.length = l.text.length + distance) :
    place yield 0 (before ++ l :: after) = place yield 0 before ++ (yield (width before) l
        ++ place yield (width before + l.text.length) after) ∧
      place yield 0 (before ++ l' :: after) = place yield 0 before ++ (yield (width before) l'
        ++ (place yield (width before + l.text.length) after).map move) := by
  constructor
  · rw [place_append, place, Nat.zero_add]
  · rw [place_append, place, Nat.zero_add, hlength, ← Nat.add_assoc, place_shift hmove]

theorem length_inQuotes (word : Text) (flaw : Option Flaw) :
    (inQuotes word).text.length = (Lexeme.token .identifier word flaw).text.length + 2 := by
  simp [inQuotes, text]

end Lexeme

open Lexeme

/-! ## Tokens and errors -/

/-- The token of an identifier put in quotes. -/
def Token.inQuotes (t : Token) : Token :=
  ⟨.quotedIdentifier, '"' :: t.lexeme ++ ['"'], ⟨t.span.start, t.span.length + 2⟩⟩

variable {source fixed word : Text} {before after : List Lexeme}

section Quote

variable {flaw : Option Flaw}
  (h : ofText true source = before ++ .token .identifier word flaw :: after)
  (hfixed : ofText true fixed = before ++ Lexeme.inQuotes word :: after)
include h hfixed

theorem tokenize_quote : ∃ behind,
    tokenize source
        = place tokensAt 0 before ++ Token.ofLexeme .identifier word (width before) :: behind ∧
      tokenize fixed = place tokensAt 0 before
        ++ (Token.ofLexeme .identifier word (width before)).inQuotes :: behind.map (·.shift 2) := by
  obtain ⟨hold, hnew⟩ := place_exchange (fun offset l => tokensAt_add offset 2 l) before after
    (length_inQuotes word flaw)
  have hlength : fixed.length = source.length + 2 := by
    rw [← width_ofText true fixed, ← width_ofText true source, h, hfixed, width_append, width_append,
      width_cons, width_cons, length_inQuotes word flaw]
    omega
  refine ⟨place tokensAt (width before + word.length) after
    ++ [Token.ofLexeme .eof [] source.length], ?_, ?_⟩
  · rw [tokenize, h, hold, List.append_assoc]
    rfl
  · rw [tokenize, hfixed, hnew, hlength, List.append_assoc, List.map_append]
    simp [Lexeme.inQuotes, Token.inQuotes, tokensAt, Token.ofLexeme, Token.shift, Span.shift,
      Lexeme.text]

theorem lexicalErrors_quote : lexicalErrors fixed = (lexicalErrors source).map fun e =>
    if e.span.stop ≤ width before then e else e.shift 2 := by
  obtain ⟨hold, hnew⟩ := place_exchange (fun offset l => errorsAt_add offset 2 l) before after
    (length_inQuotes word flaw)
  obtain ⟨rfl, c, own, rfl, -⟩ := word_of_identifier (ofText_of_append h).symm
  have hlt : width before < width before + (c :: own).length :=
    Nat.lt_add_of_pos_right (Nat.succ_pos _)
  rw [lexicalErrors, hfixed, hnew, lexicalErrors, h, hold]
  exact (map_errors_behind before after hlt 2).symm

end Quote

/-- A text in which a token of another text is put in quotes: all other tokens are read as before,
and so are the lexical errors, those behind the token two characters further on. -/
structure Requotes (source : Text) (front : List Token) (t : Token) (behind : List Token)
    (fixed : Text) : Prop where
  text : fixed = source.take t.span.start ++ ('"' :: t.lexeme ++ ['"']) ++ source.drop t.span.stop
  tokens : tokenize fixed = front ++ t.inQuotes :: behind.map (·.shift 2)
  errors : lexicalErrors fixed = (lexicalErrors source).map fun e =>
    if e.span.stop ≤ t.span.start then e else e.shift 2

/-- **An identifier can be put in quotes where it stands**, if no quote stands next to it. -/
theorem requotes_identifier {front behind : List Token} {t : Token}
    (h : tokenize source = front ++ t :: behind) (ht : t.kind = .identifier)
    (hbefore : (source.take t.span.start).getLast? ≠ some '"')
    (hafter : (source.drop t.span.stop).head? ≠ some '"') :
    Requotes source front t behind
      (source.take t.span.start ++ ('"' :: t.lexeme ++ ['"']) ++ source.drop t.span.stop) := by
  have heof : t ∉ [Token.ofLexeme .eof [] source.length] := by
    intro hmem
    rw [List.mem_singleton.mp hmem] at ht
    cases ht
  obtain ⟨before, kind, word, flaw, after, hlexemes, rfl, rfl⟩ := exists_split_of_place h heof
  obtain rfl : kind = .identifier := ht
  have hsource := flatMap_text_ofText true source
  rw [hlexemes, List.flatMap_append, List.flatMap_cons] at hsource
  rw [Nat.zero_add] at *
  have htake : source.take (width before) = before.flatMap text := by
    rw [← hsource, width, List.take_left]
  have hdrop : source.drop (width before + word.length) = after.flatMap text := by
    rw [← hsource, width, ← List.drop_drop, List.drop_left]
    exact List.drop_left
  have hfixed : ofText true (source.take (width before) ++ ('"' :: word ++ ['"'])
      ++ source.drop (width before + word.length)) = before ++ inQuotes word :: after := by
    rw [← ofText_quote hlexemes (htake ▸ hbefore) (hdrop ▸ hafter), htake, hdrop]
    simp
  obtain ⟨others, hold, hnew⟩ := tokenize_quote hlexemes hfixed
  obtain rfl : others = behind :=
    (List.cons.inj (List.append_cancel_left (hold.symm.trans h))).2
  exact ⟨rfl, hnew, lexicalErrors_quote hlexemes hfixed⟩

end Assay
