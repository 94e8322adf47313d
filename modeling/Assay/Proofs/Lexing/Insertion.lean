import Assay.Proofs.Lexing.Ends

/-!
# Inserting text in front of a token

A text can be cut where one of its lexemes ends and go on in another way, as long as the lexeme does
not go on over the character that comes next (`ofText_replace`). A blank does as well as a brace,
since no lexeme that ends in front of a brace goes on over a blank (`EndsAlike`).

A text that starts with a blank and is cut into whole lexemes in front of a brace can therefore be
inserted in front of every brace that is a token (`ofText_insert`). All tokens and errors stay, those
behind it further on in the text (`tokenize_insert`, `lexicalErrors_insert`).
-/

namespace Assay

namespace Lexeme

/-! ## Going on with another character -/

/-- Whether a lexeme that ends in front of `x` ends in front of `y` too. -/
def EndsAlike (x y : Char) : Prop := y = x ∨ x = '}' ∧ y = ' '

theorem EndsAlike.refl (x : Char) : EndsAlike x x := Or.inl rfl

theorem EndsAlike.not_takes {x y : Char} (hxy : EndsAlike x y) {l : Lexeme}
    (h : l.takes x = false) : l.takes y = false := by
  rcases hxy with rfl | ⟨rfl, rfl⟩
  · exact h
  · exact not_takes_of_closed rfl h rfl rfl (by decide) fun hquote => absurd hquote (by decide)

/-- **The lexemes in front of a cut stay the same however the text goes on**, and what is behind
them is cut on its own. -/
theorem ofText_replace {fresh : Bool} {before after : List Lexeme} {x y : Char} {behind : Text}
    (h : ofText fresh (before.flatMap text ++ x :: behind) = before ++ after)
    (hxy : EndsAlike x y) (more : Text) :
    after = ofText (before.foldl keepsFresh fresh) (x :: behind) ∧
      ofText fresh (before.flatMap text ++ y :: more)
        = before ++ ofText (before.foldl keepsFresh fresh) (y :: more) := by
  have hbehind : after.flatMap text = x :: behind := by
    have hsource := flatMap_text_ofText fresh (before.flatMap text ++ x :: behind)
    rw [h, List.flatMap_append] at hsource
    exact List.append_cancel_left hsource
  have hafter := ofText_of_append h
  rw [hbehind] at hafter
  refine ⟨hafter, ofText_append_cons h (fun l hl => hxy.not_takes ?_) more⟩
  obtain ⟨earlier, rfl⟩ := List.getLast?_eq_some_iff.mp hl
  rw [List.append_assoc] at h
  exact not_takes_of_append h hbehind

/-! ## Inserting in front of a brace -/

/-- The lexeme of a closing brace. -/
def brace : Lexeme := .token .rightBrace ['}'] none

theorem front_brace (fresh : Bool) (rest : Text) : front fresh '}' rest = (brace, rest) := by
  cases fresh <;> rfl

theorem ofWord_ne_rightBrace (word : Text) : TokenKind.ofWord word ≠ .rightBrace := by
  have hkeywords : ∀ entry ∈ TokenKind.keywords, entry.2 ≠ .rightBrace := by decide
  rw [TokenKind.ofWord]
  split
  next entry hfound => exact hkeywords entry (List.mem_of_find?_eq_some hfound)
  next => decide

theorem eq_brace_of_ofCharacter? {c : Char} (h : TokenKind.ofCharacter? c = some .rightBrace) :
    c = '}' := by
  unfold TokenKind.ofCharacter? at h
  split at h <;> first | rfl | cases h

/-- A token of a closing brace is nothing but the brace. -/
theorem front_eq_brace (fresh : Bool) (c : Char) : ∀ rest text flaw,
    (front fresh c rest).1 = .token .rightBrace text flaw → (front fresh c rest).1 = brace := by
  refine front_induction (motive := fun scan => ∀ rest text flaw,
    (scan rest).1 = .token .rightBrace text flaw → (scan rest).1 = brace) fresh c
    ?_ ?_ ?_ ?_ ?_ ?_ ?_ ?_
  · intro _ rest text flaw h
    cases h
  · intro _ rest text flaw h
    rcases slash_cases rest with ⟨t, rfl⟩ | ⟨t, rfl⟩ | ⟨hline, hblock⟩
    · cases h
    · cases h
    · rw [slash_plain hline hblock] at h
      cases h
  · intro _ _ rest text flaw h
    cases h
  · intro _ rest text flaw h
    cases h
  · intro _ rest text flaw h
    cases h
  · intro _ rest text flaw h
    cases h
  · intro _ rest text flaw h
    exact absurd (Lexeme.token.inj h).1 (ofWord_ne_rightBrace _)
  · intro _ _ rest text flaw h
    by_cases hcolon : c = ':'
    · subst hcolon
      unfold operator at h
      split at h <;> cases h
    by_cases hdot : c = '.'
    · subst hdot
      unfold operator at h
      split at h <;> cases h
    rw [operator_single hcolon hdot, alone] at h ⊢
    split at h
    · next kind hkind =>
      obtain rfl : kind = .rightBrace := (Lexeme.token.inj h).1
      obtain rfl : c = '}' := eq_brace_of_ofCharacter? hkind
      rfl
    · cases h

theorem eq_brace_of_mem {fresh : Bool} {t text : Text} {flaw : Option Flaw}
    (h : .token .rightBrace text flaw ∈ ofText fresh t) :
    Lexeme.token .rightBrace text flaw = brace := by
  fun_induction ofText fresh t with
  | case1 => cases h
  | case2 fresh c rest step ih =>
    rcases List.mem_cons.mp h with h | h
    · exact h.trans (front_eq_brace fresh c rest text flaw h.symm)
    · exact ih h

/-- Whether a text is cut into some lexemes in front of every brace, and starts with a blank. -/
structure Insertable (added : Text) (lexemes : List Lexeme) : Prop where
  starts : added.head? = some ' '
  cut : ∀ fresh, ofText fresh (added ++ ['}']) = lexemes ++ [brace]

variable {added : Text} {lexemes before after : List Lexeme} {a b : Text}

theorem Insertable.flatMap_text (h : Insertable added lexemes) : lexemes.flatMap text = added := by
  have hall := flatMap_text_ofText true (added ++ ['}'])
  rw [h.cut true, List.flatMap_append] at hall
  exact List.append_cancel_right hall

/-- **An insertable text goes in front of a brace with its own lexemes, and all other ones stay.** -/
theorem ofText_insert (hadded : Insertable added lexemes)
    (h : ofText true (a ++ '}' :: b) = before ++ brace :: after) (ha : before.flatMap text = a) :
    ofText true (a ++ added ++ '}' :: b) = before ++ lexemes ++ brace :: after := by
  subst ha
  have hnext (fresh : Bool) (more : Text) :
      ofText fresh ('}' :: more) = brace :: ofText false more := by
    rw [ofText_cons, front_brace]
    rfl
  -- nothing behind the brace depends on what is in front of it
  have hafter : after = ofText false b := by
    have hbehind := (ofText_replace h (.refl '}') []).1
    rw [hnext] at hbehind
    exact (List.cons.inj hbehind).2
  have hlexemes (fresh : Bool) : ofText fresh (added ++ '}' :: b) = lexemes ++ brace :: after := by
    have hcut := hadded.cut fresh
    rw [← hadded.flatMap_text] at hcut ⊢
    rw [(ofText_replace hcut (.refl '}') b).2, hnext, hafter]
  obtain ⟨more, hmore⟩ := List.head?_eq_some_iff.mp hadded.starts
  have hreplaced := (ofText_replace h (Or.inr ⟨rfl, rfl⟩) (more ++ '}' :: b)).2
  rw [← List.cons_append, ← hmore, hlexemes] at hreplaced
  rw [List.append_assoc, hreplaced, List.append_assoc]

/-- What is read off the lexemes after an insertion is what was read off them before, further on in
the text behind it, and what is read off the text that is inserted. -/
theorem place_insert {α : Type} {yield : Nat → Lexeme → List α} {move : α → α}
    (hmove : ∀ offset l, yield (offset + added.length) l = (yield offset l).map move)
    (hadded : Insertable added lexemes)
    (h : ofText true (a ++ '}' :: b) = before ++ brace :: after) (ha : before.flatMap text = a) :
    place yield 0 (ofText true (a ++ '}' :: b))
        = place yield 0 before ++ place yield a.length (brace :: after) ∧
      place yield 0 (ofText true (a ++ added ++ '}' :: b))
        = place yield 0 before ++ place yield a.length lexemes
          ++ (place yield a.length (brace :: after)).map move := by
  have hbefore : width before = a.length := congrArg List.length ha
  have hlexemes : width lexemes = added.length := congrArg List.length hadded.flatMap_text
  constructor
  · rw [h, place_append, hbefore, Nat.zero_add]
  · rw [ofText_insert hadded h ha, place_append, place_append, ← place_shift hmove, width_append,
      hbefore, hlexemes, Nat.zero_add, Nat.zero_add]

end Lexeme

open Lexeme

variable {added : Text} {lexemes before after : List Lexeme} {a b : Text}

/-- A token of a closing brace is a lexeme of the source. -/
theorem exists_brace_of_tokenize {source : Text} {front behind : List Token} {t : Token}
    (h : tokenize source = front ++ t :: behind) (ht : t.kind = .rightBrace) :
    ∃ a b before after, source = a ++ '}' :: b ∧ ofText true source = before ++ brace :: after ∧
      before.flatMap text = a ∧ front = place tokensAt 0 before ∧
      t = Token.ofLexeme .rightBrace ['}'] a.length := by
  have heof : t ∉ [Token.ofLexeme .eof [] source.length] := by
    intro hmem
    rw [List.mem_singleton.mp hmem] at ht
    cases ht
  obtain ⟨before, kind, text, flaw, after, hlexemes, hfront, rfl⟩ := exists_split_of_place h heof
  obtain rfl : kind = .rightBrace := ht
  have hmem : Lexeme.token .rightBrace text flaw ∈ ofText true source :=
    hlexemes ▸ List.mem_append_right _ List.mem_cons_self
  obtain ⟨-, rfl, rfl⟩ := Lexeme.token.inj (eq_brace_of_mem hmem)
  have hsource := flatMap_text_ofText true source
  rw [hlexemes, List.flatMap_append, List.flatMap_cons] at hsource
  refine ⟨_, _, before, after, hsource.symm, hlexemes, rfl, hfront, ?_⟩
  rw [Nat.zero_add]
  rfl

/-- **All tokens stay when a text is inserted in front of a brace.** -/
theorem tokenize_insert (hadded : Insertable added lexemes)
    (h : ofText true (a ++ '}' :: b) = before ++ brace :: after) (ha : before.flatMap text = a) :
    ∃ behind, tokenize (a ++ '}' :: b)
        = place tokensAt 0 before ++ Token.ofLexeme .rightBrace ['}'] a.length :: behind ∧
      tokenize (a ++ added ++ '}' :: b) = place tokensAt 0 before ++ place tokensAt a.length lexemes
        ++ (Token.ofLexeme .rightBrace ['}'] a.length :: behind).map (·.shift added.length) := by
  obtain ⟨hold, hnew⟩ :=
    place_insert (fun offset l => tokensAt_add offset added.length l) hadded h ha
  have heof : Token.ofLexeme .eof [] (a ++ added ++ '}' :: b).length
      = (Token.ofLexeme .eof [] (a ++ '}' :: b).length).shift added.length := by
    have hlength : (a ++ added ++ '}' :: b).length
        = (a ++ '}' :: b).length + added.length := by
      simp only [List.length_append]
      omega
    rw [hlength]
    rfl
  refine ⟨place tokensAt (a.length + 1) after
    ++ [Token.ofLexeme .eof [] (a ++ '}' :: b).length], ?_, ?_⟩
  · rw [tokenize, hold, List.append_assoc]
    rfl
  · rw [tokenize, hnew, heof]
    simp [place, tokensAt, brace, Lexeme.text]

/-- **All lexical errors stay when a text without errors is inserted in front of a brace.** -/
theorem lexicalErrors_insert (hadded : Insertable added lexemes)
    (hnone : place errorsAt a.length lexemes = [])
    (h : ofText true (a ++ '}' :: b) = before ++ brace :: after) (ha : before.flatMap text = a) :
    lexicalErrors (a ++ added ++ '}' :: b) = (lexicalErrors (a ++ '}' :: b)).map fun d =>
      if d.span.stop ≤ a.length then d else d.shift added.length := by
  obtain ⟨hold, hnew⟩ :=
    place_insert (fun offset l => errorsAt_add offset added.length l) hadded h ha
  have hwidth : width before = a.length := congrArg List.length ha
  have hbehind := map_errors_behind before after (Nat.lt_succ_self (width before)) added.length
  rw [hwidth] at hbehind
  rw [lexicalErrors, hnew, hnone, List.append_nil, lexicalErrors, hold]
  exact hbehind.symm

end Assay
