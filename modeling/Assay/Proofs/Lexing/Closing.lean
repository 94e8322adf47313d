import Assay.Proofs.Lexing.Scan

/-!
# Closing delimiters

What a lexeme of a text is like, whatever text it was cut from: blanks are blank, stray characters
are not, and a token has a flaw if and only if its characters lack a closing delimiter. Whether they
do is said without reference to how they were read: a block comment is `/*`, a body and `*/`, and a
literal is its content between quotes, where the quotes of the content are doubled.
-/

namespace Assay

/-! ## Delimited texts -/

/-- A content as it stands between quotes. -/
def doubled (quote : Char) (content : Text) : Text :=
  content.flatMap fun c => if c = quote then [c, c] else [c]

/-- The delimiter that characters of a token lack at their end. -/
inductive Lacks : TokenKind → Text → Flaw → Prop
  | comment {text : Text} (hopening : ['/', '*'] <+: text)
      (hclosing : ∀ body, text ≠ ['/', '*'] ++ body ++ ['*', '/']) :
      Lacks .comment text .openComment
  | string {text : Text} (hclosing : ∀ content, text ≠ ['\''] ++ doubled '\'' content ++ ['\'']) :
      Lacks .string text .openString
  | quotedIdentifier {text : Text}
      (hclosing : ∀ content, text ≠ ['"'] ++ doubled '"' content ++ ['"']) :
      Lacks .quotedIdentifier text .openIdentifier

/-- Whether tokens of a kind have no closing delimiter, and the end of the text is not one of
them. -/
def TokenKind.isPlain : TokenKind → Bool
  | .comment | .string | .quotedIdentifier | .eof => false
  | _ => true

theorem not_lacks {kind : TokenKind} (h : kind.isPlain = true) (text : Text) (flaw : Flaw) :
    ¬ Lacks kind text flaw := by
  rintro (_ | _ | _) <;> cases h

theorem TokenKind.isPlain_ofWord (word : Text) : (ofWord word).isPlain = true := by
  have hkeywords : ∀ entry ∈ keywords, entry.2.isPlain = true := by decide
  rw [ofWord]
  split
  next entry hfound => exact hkeywords entry (List.mem_of_find?_eq_some hfound)
  next => rfl

theorem TokenKind.isPlain_of_ofCharacter? {c : Char} {kind : TokenKind}
    (h : ofCharacter? c = some kind) : kind.isPlain = true := by
  unfold ofCharacter? at h
  split at h <;> cases h <;> rfl

/-! ## What the scans of delimited texts take -/

namespace Lexeme

variable {quote : Char}

theorem doubled_cons_quote (content : Text) :
    doubled quote (quote :: content) = quote :: quote :: doubled quote content := by
  simp [doubled]

theorem doubled_cons_other {c : Char} (hc : c ≠ quote) (content : Text) :
    doubled quote (c :: content) = c :: doubled quote content := by
  simp [doubled, hc]

/-- Quotes come in pairs between quotes. -/
theorem count_doubled (content : Text) :
    (doubled quote content).count quote = 2 * content.count quote := by
  induction content with
  | nil => rfl
  | cons c content ih =>
    by_cases hc : c = quote
    · subst hc
      rw [doubled_cons_quote, List.count_cons_self, List.count_cons_self, List.count_cons_self, ih]
      omega
    · rw [doubled_cons_other hc, List.count_cons_of_ne hc, List.count_cons_of_ne hc, ih]

/-- A quoted text is a content between quotes, the second of which may be missing. -/
theorem exists_takeQuoted_eq (quote : Char) (t : Text) : ∃ content, (takeQuoted quote t).1
    = doubled quote content ++ if (takeQuoted quote t).2.1 then [quote] else [] := by
  induction t using takeQuoted_induction quote with
  | nil => exact ⟨[], rfl⟩
  | pair t ih =>
    obtain ⟨content, hcontent⟩ := ih
    refine ⟨quote :: content, ?_⟩
    rw [takeQuoted_pair, hcontent, doubled_cons_quote]
    rfl
  | close t h =>
    refine ⟨[], ?_⟩
    rw [takeQuoted_close h]
    rfl
  | stop c t hc h =>
    refine ⟨[], ?_⟩
    rw [takeQuoted_break hc h]
    rfl
  | other c t hc h ih =>
    obtain ⟨content, hcontent⟩ := ih
    refine ⟨c :: content, ?_⟩
    rw [takeQuoted_other hc h, hcontent, doubled_cons_other hc]
    rfl

/-- A quoted text is closed if and only if it is a content and the quote that closes it: the quotes
before an end without one are even in number. -/
theorem takeQuoted_closed_iff (quote : Char) (t : Text) : (takeQuoted quote t).2.1 = true ↔
    ∃ content, (takeQuoted quote t).1 = doubled quote content ++ [quote] := by
  obtain ⟨content, hcontent⟩ := exists_takeQuoted_eq quote t
  constructor
  · intro hclosed
    rw [hclosed] at hcontent
    exact ⟨content, hcontent⟩
  · rintro ⟨other, hother⟩
    by_contra hopen
    rw [if_neg hopen, List.append_nil] at hcontent
    have hcount := congrArg (List.count quote) (hcontent.symm.trans hother)
    rw [List.count_append, count_doubled, count_doubled, List.count_singleton_self] at hcount
    omega

/-- A comment is closed if and only if it ends with the closing delimiter. -/
theorem takeComment_closed_iff (t : Text) :
    (takeComment t).2.1 = true ↔ ∃ body, (takeComment t).1 = body ++ ['*', '/'] := by
  fun_induction takeComment t with
  | case1 => simp
  | case2 rest => exact ⟨fun _ => ⟨[], rfl⟩, fun _ => rfl⟩
  | case3 c rest hopen taken closed more heq ih =>
    rw [heq] at ih
    refine ih.trans ⟨?_, ?_⟩
    · rintro ⟨body, hbody⟩
      exact ⟨c :: body, congrArg (c :: ·) hbody⟩
    · rintro ⟨body, hbody⟩
      cases body with
      | nil =>
        -- the comment would have ended with its first two characters
        obtain ⟨hc, htaken⟩ := List.cons.inj hbody
        refine (hopen more hc ?_).elim
        rw [← takeComment_append rest, heq]
        exact congrArg (· ++ more) htaken
      | cons d body => exact ⟨body, (List.cons.inj hbody).2⟩

/-! ## What lexemes are like -/

/-- What holds of a lexeme whatever text it was cut from. -/
inductive Sound : Lexeme → Prop
  | blank {c : Char} (h : isBlank c = true) : Sound (.blank c)
  | stray {c : Char} (h : isBlank c = false) : Sound (.stray c)
  | token {kind : TokenKind} {text : Text} {flaw : Option Flaw} (hkind : kind ≠ .eof)
      (hflaw : ∀ f, flaw = some f ↔ Lacks kind text f) : Sound (.token kind text flaw)

theorem sound_plain {kind : TokenKind} (h : kind.isPlain = true) (text : Text) :
    Sound (.token kind text none) := by
  refine .token ?_ fun f => ⟨fun hf => ?_, fun hf => ?_⟩
  · rintro rfl
    cases h
  · cases hf
  · exact absurd hf (not_lacks h text f)

theorem sound_slash (rest : Text) : Sound (slash rest).1 := by
  rcases slash_cases rest with ⟨t, rfl⟩ | ⟨t, rfl⟩ | ⟨hline, hblock⟩
  · show Sound (.token .comment _ none)
    refine .token (by decide) fun f => ⟨fun hf => ?_, fun hf => ?_⟩
    · cases hf
    · -- a line comment is no block comment
      cases hf with
      | comment hopening _ => simp [isLineBreak] at hopening
  · rw [slash_block]
    have hclosed : (takeComment t).2.1 = true ↔
        ∃ body, '/' :: '*' :: (takeComment t).1 = ['/', '*'] ++ body ++ ['*', '/'] := by
      simp [takeComment_closed_iff]
    refine .token (by decide) fun f => ⟨fun hf => ?_, fun hf => ?_⟩
    · split_ifs at hf with hopen
      cases hf
      exact .comment ⟨_, rfl⟩ fun body hbody => hopen (hclosed.mpr ⟨body, hbody⟩)
    · cases hf with
      | comment _ hclosing =>
        exact if_neg fun h => (hclosed.mp h).elim hclosing
  · rw [slash_plain hline hblock]
    exact sound_plain rfl _

theorem sound_quotedToken {kind : TokenKind} {flaw : Flaw} {quote : Char} (hkind : kind ≠ .eof)
    (hlacks : ∀ text f, Lacks kind text f ↔
      f = flaw ∧ ∀ content, text ≠ [quote] ++ doubled quote content ++ [quote]) (rest : Text) :
    Sound (quotedToken kind flaw quote rest).1 := by
  have hclosed : (takeQuoted quote rest).2.1 = true ↔ ∃ content,
      quote :: (takeQuoted quote rest).1 = [quote] ++ doubled quote content ++ [quote] := by
    simp [takeQuoted_closed_iff]
  refine .token hkind fun f => ?_
  rw [hlacks]
  constructor
  · intro hf
    split_ifs at hf with hopen
    exact ⟨(Option.some.inj hf).symm, fun content h => hopen (hclosed.mpr ⟨content, h⟩)⟩
  · rintro ⟨rfl, hclosing⟩
    exact if_neg fun h => (hclosed.mp h).elim hclosing

theorem sound_operator {c : Char} (h : ¬ isBlank c = true) (rest : Text) :
    Sound (operator c rest).1 := by
  by_cases hcolon : c = ':'
  · subst hcolon
    unfold operator
    split <;> first | exact sound_plain rfl _ | contradiction
  by_cases hdot : c = '.'
  · subst hdot
    unfold operator
    split <;> first | exact sound_plain rfl _ | contradiction
  rw [operator_single hcolon hdot, alone]
  split
  next kind hkind => exact sound_plain (TokenKind.isPlain_of_ofCharacter? hkind) _
  next => exact .stray (by simpa using h)

/-- **Every lexeme of a text is sound.** -/
theorem sound_front (fresh : Bool) (c : Char) : ∀ rest, Sound (front fresh c rest).1 := by
  refine front_induction (motive := fun scan => ∀ rest, Sound (scan rest).1) fresh c
    ?_ ?_ ?_ ?_ ?_ ?_ ?_ ?_
  · intro h _
    exact .blank h
  · rintro rfl
    exact sound_slash
  · intro _ _ _
    exact sound_plain rfl _
  · rintro rfl
    refine sound_quotedToken (by decide) fun text f => ⟨?_, ?_⟩
    · rintro ⟨⟩
      exact ⟨rfl, ‹_›⟩
    · rintro ⟨rfl, h⟩
      exact .string h
  · rintro rfl
    refine sound_quotedToken (by decide) fun text f => ⟨?_, ?_⟩
    · rintro ⟨⟩
      exact ⟨rfl, ‹_›⟩
    · rintro ⟨rfl, h⟩
      exact .quotedIdentifier h
  · intro _ _
    exact sound_plain rfl _
  · intro _ _
    exact sound_plain (TokenKind.isPlain_ofWord _) _
  · intro h _
    exact sound_operator h

end Lexeme

end Assay
