import Assay.Proofs.Lexing.Cover

/-!
# What may stand behind a lexeme

A lexeme goes on over some characters and ends in front of the others (`takes`). Every scan takes all
that its lexeme goes on over, and it looks no further than at the character in front of which the
lexeme ends (`isGreedy_front`). So the lexemes in front of a place in a text stay the same however
the text goes on from there, as long as the last of them does not go on over the next character
(`ofText_append_cons`), and what is behind the place is cut on its own (`ofText_of_append`).
-/

namespace Assay

/-- Whether tokens of a kind are words: keywords and identifiers. -/
def TokenKind.isWord (kind : TokenKind) : Bool := kind.isKeyword || kind = .identifier

theorem TokenKind.isWord_ofWord (word : Text) : (ofWord word).isWord = true := by
  have hkeywords : ∀ entry ∈ keywords, entry.2.isWord = true := by decide
  rw [ofWord]
  split
  next entry hfound => exact hkeywords entry (List.mem_of_find?_eq_some hfound)
  next => rfl

namespace Lexeme

/-- A class of characters has no line breaks in it if it has neither of the two. -/
theorem not_isLineBreak_of_class {p : Char → Bool} (hlf : p '\n' = false) (hcr : p '\r' = false)
    {c : Char} (hc : p c = true) : isLineBreak c = false := by
  by_contra hbreak
  have hbreak := Bool.of_not_eq_false hbreak
  simp only [isLineBreak, Bool.or_eq_true, beq_iff_eq] at hbreak
  rcases hbreak with rfl | rfl
  · exact Bool.false_ne_true (hlf.symm.trans hc)
  · exact Bool.false_ne_true (hcr.symm.trans hc)

/-- Whether a text between quotes goes on over a character: any quote makes a closed one longer, and
only a line break does not make an open one longer. -/
def quotedTakes (quote : Char) (closed : Bool) (x : Char) : Bool :=
  if closed then x == quote else !isLineBreak x

/-- Whether a lexeme goes on over a character that stands behind it. -/
def takes (l : Lexeme) (x : Char) : Bool :=
  match l with
  | .blank _ | .stray _ => false
  | .token .comment text flaw => if ['/', '*'].isPrefixOf text then flaw.isSome else !isLineBreak x
  | .token .directive _ _ => !isLineBreak x
  | .token .string _ flaw => quotedTakes '\'' flaw.isNone x
  | .token .quotedIdentifier _ flaw => quotedTakes '"' flaw.isNone x
  | .token .integer _ _ => isDigit x
  | .token .slash _ _ => x == '/' || x == '*'
  | .token .colon _ _ => x == '='
  | .token .dot _ _ => x == '.'
  | .token kind _ _ => kind.isWord && continuesWord x

theorem takes_of_isWord {kind : TokenKind} (h : kind.isWord = true) (text : Text)
    (flaw : Option Flaw) (x : Char) : takes (.token kind text flaw) x = continuesWord x := by
  cases kind <;> first | rfl | cases h

theorem takes_alone (c x : Char) : (alone c).takes x = false := by
  unfold alone TokenKind.ofCharacter?
  split
  next kind hkind => split at hkind <;> cases hkind <;> rfl
  next => rfl

/-- A lexeme that ends in front of a character which is no line break is closed. It goes on over no
character but those that make it another lexeme. -/
theorem not_takes_of_closed {l : Lexeme} {x y : Char} (hx : isLineBreak x = false)
    (h : l.takes x = false) (hdigit : isDigit y = false) (hword : continuesWord y = false)
    (hpart : y ∉ ['/', '*', '=', '.', '\''])
    (hquote : y = '"' → ∀ text, l ≠ .token .quotedIdentifier text none) : l.takes y = false := by
  have hopen : ¬ (!isLineBreak x) = false := by simp [hx]
  cases l with
  | blank c | stray c => rfl
  | token kind text flaw =>
    cases kind
    case comment =>
      rw [takes] at h ⊢
      split_ifs at h ⊢
      · exact h
      · exact absurd h hopen
    case directive => exact absurd h hopen
    case string =>
      cases flaw with
      | some flaw => exact absurd h hopen
      | none =>
        refine beq_eq_false_iff_ne.mpr ?_
        rintro rfl
        exact hpart (by decide)
    case quotedIdentifier =>
      cases flaw with
      | some flaw => exact absurd h hopen
      | none => exact beq_eq_false_iff_ne.mpr fun hy => hquote hy text rfl
    case integer => exact hdigit
    case slash | colon | dot =>
      simp only [List.mem_cons, not_or] at hpart
      simp [takes, hpart]
    all_goals simp [takes, hword]

/-! ## Greedy scans -/

/-- Whether a scan of what is behind a character `c` takes all that its lexeme goes on over, and
gives the same lexeme whatever is behind it. -/
structure IsGreedy (c : Char) (scan : Text → Lexeme × Text) : Prop where
  stops : ∀ rest x behind, (scan rest).2 = x :: behind → (scan rest).1.takes x = false
  stays : ∀ rest own, (scan rest).1.text = c :: own → ∀ y more, (scan rest).1.takes y = false →
    scan (own ++ y :: more) = ((scan rest).1, y :: more)

variable {c : Char}

theorem isGreedy_single (l : Lexeme) (htext : l.text = [c]) (htakes : ∀ x, l.takes x = false) :
    IsGreedy c fun rest => (l, rest) where
  stops _ x _ _ := htakes x
  stays rest own hown y more _ := by
    rw [htext] at hown
    rw [← (List.cons.inj hown).2]
    rfl

section Run

variable {kind : Text → TokenKind} {continues : Char → Bool} {rest : Text}

theorem run_stops {x : Char} {behind : Text} (h : (run kind continues c rest).2 = x :: behind) :
    continues x = false := by
  have hstop := List.head?_dropWhile_not continues rest
  rwa [show rest.dropWhile continues = x :: behind from h] at hstop

theorem run_stays {own : Text} (h : (run kind continues c rest).1.text = c :: own) {y : Char}
    (hy : continues y = false) (more : Text) :
    run kind continues c (own ++ y :: more) = ((run kind continues c rest).1, y :: more) := by
  obtain rfl : rest.takeWhile continues = own := (List.cons.inj h).2
  have hends : ¬ continues y = true := Bool.eq_false_iff.mp hy
  have htaken : ∀ d ∈ rest.takeWhile continues, continues d = true :=
    fun _ => List.mem_takeWhile_imp
  rw [run, List.takeWhile_append_of_pos htaken, List.takeWhile_cons_of_neg hends, List.append_nil,
    List.dropWhile_append_of_pos htaken, List.dropWhile_cons_of_neg hends]
  rfl

theorem isGreedy_run (htakes : ∀ text x, takes (.token (kind text) text none) x = continues x) :
    IsGreedy c (run kind continues c) where
  stops _ x _ hbehind := (htakes _ x).trans (run_stops hbehind)
  stays _ _ hown y more hy := run_stays hown ((htakes _ y).symm.trans hy) more

end Run

section Quoted

variable {quote x y : Char} {t behind : Text}

theorem takeQuoted_stops (h : (takeQuoted quote t).2.2 = x :: behind) :
    quotedTakes quote (takeQuoted quote t).2.1 x = false := by
  induction t using takeQuoted_induction quote with
  | nil => cases h
  | pair t ih =>
    rw [takeQuoted_pair] at h ⊢
    exact ih h
  | close t hhead =>
    rw [takeQuoted_close hhead] at h ⊢
    obtain rfl : t = x :: behind := h
    simpa [quotedTakes] using hhead
  | stop c t hc hbreak =>
    rw [takeQuoted_break hc hbreak] at h ⊢
    obtain rfl : c = x := (List.cons.inj h).1
    simp [quotedTakes, hbreak]
  | other c t hc hbreak ih =>
    rw [takeQuoted_other hc hbreak] at h ⊢
    exact ih h

theorem takeQuoted_stays (hquote : isLineBreak quote = false)
    (hy : quotedTakes quote (takeQuoted quote t).2.1 y = false) (more : Text) :
    takeQuoted quote ((takeQuoted quote t).1 ++ y :: more)
      = ((takeQuoted quote t).1, (takeQuoted quote t).2.1, y :: more) := by
  have hopen (hends : quotedTakes quote false y = false) :
      takeQuoted quote (y :: more) = ([], false, y :: more) := by
    have hbreak : isLineBreak y = true := by simpa [quotedTakes] using hends
    refine takeQuoted_break ?_ hbreak more
    rintro rfl
    rw [hquote] at hbreak
    cases hbreak
  induction t using takeQuoted_induction quote with
  | nil => exact hopen hy
  | pair t ih =>
    rw [takeQuoted_pair] at hy ⊢
    rw [List.cons_append, List.cons_append, takeQuoted_pair, ih hy]
  | close t hhead =>
    rw [takeQuoted_close hhead] at hy ⊢
    refine takeQuoted_close ?_
    simpa [quotedTakes] using hy
  | stop c t hc hbreak =>
    rw [takeQuoted_break hc hbreak] at hy ⊢
    exact hopen hy
  | other c t hc hbreak ih =>
    rw [takeQuoted_other hc hbreak] at hy ⊢
    rw [List.cons_append, takeQuoted_other hc hbreak, ih hy]

theorem isGreedy_quotedToken {kind : TokenKind} {flaw : Flaw} (hquote : isLineBreak quote = false)
    (htakes : ∀ text f x, takes (.token kind text f) x = quotedTakes quote f.isNone x) :
    IsGreedy quote (quotedToken kind flaw quote) := by
  have hclosed (t : Text) (x : Char) : (quotedToken kind flaw quote t).1.takes x
      = quotedTakes quote (takeQuoted quote t).2.1 x := by
    refine (htakes _ _ x).trans ?_
    cases (takeQuoted quote t).2.1 <;> rfl
  refine ⟨fun t x behind hbehind => (hclosed t x).trans (takeQuoted_stops hbehind), ?_⟩
  intro t own hown y more hy
  obtain rfl : (takeQuoted quote t).1 = own := (List.cons.inj hown).2
  rw [quotedToken, takeQuoted_stays hquote ((hclosed t y).symm.trans hy)]
  rfl

end Quoted

theorem isGreedy_slash : IsGreedy '/' slash where
  stops rest x behind hbehind := by
    rcases slash_cases rest with ⟨t, rfl⟩ | ⟨t, rfl⟩ | ⟨hline, hblock⟩
    · exact run_stops hbehind
    · have hclosed : (takeComment t).2.1 = true := by
        by_contra hopen
        rw [slash_block, takeComment_rest_of_open (Bool.of_not_eq_true hopen)] at hbehind
        cases hbehind
      rw [slash_block, hclosed]
      rfl
    · rw [slash_plain hline hblock] at hbehind ⊢
      obtain rfl : rest = x :: behind := hbehind
      have hnext : x ≠ '/' ∧ x ≠ '*' := ⟨by simpa using hline, by simpa using hblock⟩
      simpa [takes, plain] using hnext
  stays rest own hown y more hy := by
    rcases slash_cases rest with ⟨t, rfl⟩ | ⟨t, rfl⟩ | ⟨hline, hblock⟩
    · have hrun := run_stays hown hy more
      obtain rfl : '/' :: t.takeWhile (!isLineBreak ·) = own := (List.cons.inj hown).2
      exact hrun
    · obtain rfl : '*' :: (takeComment t).1 = own := (List.cons.inj hown).2
      have hclosed : (takeComment t).2.1 = true := by
        by_contra hopen
        rw [slash_block, if_neg hopen] at hy
        cases hy
      have htaken := takeComment_taken t
      have hagain := takeComment_append_of_closed (t := (takeComment t).1)
        (by rw [htaken]; exact hclosed) (y :: more)
      rw [htaken] at hagain
      rw [List.cons_append, slash_block, hagain, slash_block, hclosed]
      rfl
    · rw [slash_plain hline hblock] at hown hy ⊢
      obtain rfl : [] = own := (List.cons.inj hown).2
      have hnext : y ≠ '/' ∧ y ≠ '*' := by simpa [takes, plain] using hy
      exact slash_plain (by simpa using hnext.1) (by simpa using hnext.2)

/-- A character `d` behind `c` is taken if it is there. -/
theorem isGreedy_pair {scan : Text → Lexeme × Text} {d : Char} (one two : Lexeme)
    (hone : one.text = [c] ∧ ∀ x, one.takes x = (x == d))
    (htwo : two.text = [c, d] ∧ ∀ x, two.takes x = false)
    (hpair : ∀ t, scan (d :: t) = (two, t))
    (halone : ∀ rest, rest.head? ≠ some d → scan rest = (one, rest)) : IsGreedy c scan where
  stops rest x behind hbehind := by
    by_cases hrest : rest.head? = some d
    · obtain ⟨t, rfl⟩ := List.head?_eq_some_iff.mp hrest
      rw [hpair]
      exact htwo.2 x
    · rw [halone rest hrest] at hbehind ⊢
      obtain rfl : rest = x :: behind := hbehind
      rw [hone.2]
      simpa using hrest
  stays rest own hown y more hy := by
    by_cases hrest : rest.head? = some d
    · obtain ⟨t, rfl⟩ := List.head?_eq_some_iff.mp hrest
      rw [hpair, htwo.1] at hown
      rw [hpair, ← (List.cons.inj hown).2]
      exact hpair (y :: more)
    · rw [halone rest hrest] at hown hy ⊢
      rw [hone.1] at hown
      rw [hone.2] at hy
      rw [← (List.cons.inj hown).2]
      exact halone (y :: more) (by simpa using hy)

theorem isGreedy_operator (c : Char) : IsGreedy c (operator c) := by
  by_cases hcolon : c = ':'
  · subst hcolon
    exact isGreedy_pair (.token .colon [':'] none) (.token .assign [':', '='] none)
      ⟨rfl, fun _ => rfl⟩ ⟨rfl, fun _ => rfl⟩ (fun _ => rfl) fun _ => operator_colon
  by_cases hdot : c = '.'
  · subst hdot
    exact isGreedy_pair (.token .dot ['.'] none) (.token .dotDot ['.', '.'] none)
      ⟨rfl, fun _ => rfl⟩ ⟨rfl, fun _ => rfl⟩ (fun _ => rfl) fun _ => operator_dot
  · rw [show operator c = _ from funext (operator_single hcolon hdot)]
    refine isGreedy_single (alone c) ?_ (takes_alone c)
    unfold alone
    cases TokenKind.ofCharacter? c <;> rfl

/-- **Every scan takes all that its lexeme goes on over, and looks no further.** -/
theorem isGreedy_front (fresh : Bool) (c : Char) : IsGreedy c (front fresh c) := by
  refine front_induction fresh c ?_ ?_ ?_ ?_ ?_ ?_ ?_ ?_
  · intro _
    exact isGreedy_single (.blank c) rfl fun _ => rfl
  · rintro rfl
    exact isGreedy_slash
  · intro _ _
    exact isGreedy_run fun _ _ => rfl
  · rintro rfl
    exact isGreedy_quotedToken rfl fun _ _ _ => rfl
  · rintro rfl
    exact isGreedy_quotedToken rfl fun _ _ _ => rfl
  · intro _
    exact isGreedy_run fun _ _ => rfl
  · intro _
    exact isGreedy_run fun text x => takes_of_isWord (TokenKind.isWord_ofWord text) text none x
  · intro _ _
    exact isGreedy_operator c

/-! ## Going on in another way -/

variable {fresh : Bool} {t : Text} {before after : List Lexeme} {l : Lexeme}

/-- What is behind some lexemes of a text is cut on its own, with the flag that they leave. -/
theorem ofText_of_append (h : ofText fresh t = before ++ after) :
    after = ofText (before.foldl keepsFresh fresh) (after.flatMap text) := by
  induction before generalizing fresh t with
  | nil =>
    rw [List.nil_append] at h
    rw [← h, List.foldl_nil, flatMap_text_ofText]
  | cons l before ih =>
    cases t with
    | nil =>
      rw [ofText] at h
      cases h
    | cons c rest =>
      rw [ofText_cons] at h
      obtain ⟨rfl, hrest⟩ := List.cons.inj h
      exact ih hrest

/-- The first lexeme of a text is the one that its first character starts. -/
theorem front_of_cons (h : ofText fresh t = l :: after) : ∃ c own, l.text = c :: own ∧
    front fresh c (own ++ after.flatMap text) = (l, after.flatMap text) := by
  have hsource := flatMap_text_ofText fresh t
  cases t with
  | nil =>
    rw [ofText] at h
    cases h
  | cons c rest =>
    rw [h, List.flatMap_cons] at hsource
    rw [ofText_cons] at h
    obtain ⟨rfl, hafter⟩ := List.cons.inj h
    obtain ⟨own, hown, -⟩ := (isScan_front fresh c).rereads rest
    have hbehind : (front fresh c rest).2 = after.flatMap text := by
      rw [← hafter, flatMap_text_ofText]
    rw [hown, List.cons_append] at hsource
    refine ⟨c, own, hown, ?_⟩
    rw [(List.cons.inj hsource).2, ← hbehind]

/-- A lexeme does not go on over what stands behind it. -/
theorem not_takes_of_append {x : Char} {behind : Text} (h : ofText fresh t = before ++ l :: after)
    (hbehind : after.flatMap text = x :: behind) : l.takes x = false := by
  obtain ⟨c, own, -, hfront⟩ := front_of_cons (ofText_of_append h).symm
  have hstops := (isGreedy_front (before.foldl keepsFresh fresh) c).stops (own ++ after.flatMap text)
  rw [hfront] at hstops
  exact hstops x behind hbehind

/-- **The lexemes in front of a place stay the same however the text goes on**, if the last of them
does not go on over the next character. -/
theorem ofText_append_cons {y : Char} (h : ofText fresh t = before ++ after)
    (hy : ∀ l ∈ before.getLast?, l.takes y = false) (more : Text) :
    ofText fresh (before.flatMap text ++ y :: more)
      = before ++ ofText (before.foldl keepsFresh fresh) (y :: more) := by
  induction before generalizing fresh t with
  | nil => rfl
  | cons l before ih =>
    have hrest : before ++ after = ofText (keepsFresh fresh l) ((before ++ after).flatMap text) :=
      ofText_of_append (show ofText fresh t = [l] ++ (before ++ after) from h)
    have hlast : ∀ m ∈ before.getLast?, m.takes y = false := by
      cases before with
      | nil => nofun
      | cons m before => exact hy
    have hagain := ih hrest.symm hlast
    -- what comes next is the new character, or what stood there before
    obtain ⟨y', more', hnext, htakes⟩ : ∃ y' more',
        before.flatMap text ++ y :: more = y' :: more' ∧ l.takes y' = false := by
      cases before with
      | nil => exact ⟨y, more, rfl, hy l rfl⟩
      | cons m before =>
        obtain ⟨d, own, hm, -⟩ := front_of_cons hrest.symm
        refine ⟨d, own ++ (before.flatMap text ++ y :: more), by simp [hm], ?_⟩
        have hbehind : (m :: before ++ after).flatMap text
            = d :: (own ++ (before ++ after).flatMap text) := by simp [hm]
        exact not_takes_of_append (show ofText fresh t = [] ++ l :: (m :: before ++ after) from h)
          hbehind
    obtain ⟨c, own, hl, hfront⟩ := front_of_cons h
    have hstays := (isGreedy_front fresh c).stays (own ++ (before ++ after).flatMap text) own
    rw [show front fresh c (own ++ (before ++ after).flatMap text) = _ from hfront] at hstays
    rw [List.flatMap_cons, List.append_assoc, hl, List.cons_append, hnext, ofText_cons,
      hstays hl y' more' htakes, ← hnext, hagain]
    rfl

end Lexeme

end Assay
