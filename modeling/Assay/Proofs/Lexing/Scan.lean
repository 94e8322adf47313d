import Assay.Lexeme
import Mathlib.Data.List.TakeWhile

/-!
# Scans

A text is cut by `front`, which picks a scan by the first character and by whether the line is
fresh; the scan then reads the text behind that character. `front_induction` turns a statement about
all of them into one about each.

Two facts hold of every scan (`IsScan`), and all that is known about the context of a lexeme follows
from them:

* a scan that is given its own lexeme alone reads it again, to the end;
* a line break ends every lexeme but an open comment, and an open comment is the last lexeme of its
  text.
-/

namespace Assay.Lexeme

/-! ## Comments -/

/-- What a comment takes is a comment of its own. -/
theorem takeComment_taken (t : Text) :
    takeComment (takeComment t).1 = ((takeComment t).1, (takeComment t).2.1, []) := by
  fun_induction takeComment t with
  | case1 => rfl
  | case2 rest => rfl
  | case3 c rest hopen taken closed more heq ih =>
    rw [heq] at ih
    have htaken : ∀ tail, c = '*' → taken = '/' :: tail → False := by
      intro tail hc htail
      refine hopen (tail ++ more) hc ?_
      rw [← takeComment_append rest, heq, htail, List.cons_append]
    rw [takeComment.eq_3 c taken htaken, ih]

/-- Only a closed comment leaves text behind it. -/
theorem takeComment_rest_of_open {t : Text} (h : (takeComment t).2.1 = false) :
    (takeComment t).2.2 = [] := by
  fun_induction takeComment t with
  | case1 => rfl
  | case2 rest => cases h
  | case3 c rest hopen taken closed more heq ih =>
    rw [heq] at ih
    exact ih h

/-- A closed comment is the same whatever is added behind the text. -/
theorem takeComment_append_of_closed {t : Text} (h : (takeComment t).2.1 = true) (more : Text) :
    takeComment (t ++ more) = ((takeComment t).1, true, (takeComment t).2.2 ++ more) := by
  fun_induction takeComment t with
  | case1 => cases h
  | case2 rest => rfl
  | case3 c rest hopen taken closed behind heq ih =>
    rw [heq] at ih
    have hlonger : ∀ tail, c = '*' → rest ++ more = '/' :: tail → False := by
      intro tail hc htail
      cases rest with
      | nil =>
        -- nothing is closed by an empty text
        cases heq
        cases h
      | cons d rest =>
        rw [List.cons_append, List.cons.injEq] at htail
        exact hopen rest hc (by rw [htail.1])
    rw [List.cons_append, takeComment.eq_3 c (rest ++ more) hlonger, ih h]

/-! ## Quoted texts -/

variable {quote : Char}

theorem takeQuoted_pair (t : Text) : takeQuoted quote (quote :: quote :: t)
    = (quote :: quote :: (takeQuoted quote t).1, (takeQuoted quote t).2) := by
  rw [takeQuoted, if_pos rfl, if_pos rfl]

theorem takeQuoted_close {t : Text} (h : t.head? ≠ some quote) :
    takeQuoted quote (quote :: t) = ([quote], true, t) := by
  cases t with
  | nil => rw [takeQuoted, if_pos rfl]
  | cons next rest =>
    rw [takeQuoted, if_pos rfl, if_neg fun hnext => h (congrArg some hnext)]

theorem takeQuoted_break {c : Char} (hc : c ≠ quote) (h : isLineBreak c = true) (t : Text) :
    takeQuoted quote (c :: t) = ([], false, c :: t) := by
  cases t with
  | nil => rw [takeQuoted, if_neg hc, if_pos h]
  | cons next rest => rw [takeQuoted, if_neg hc, if_pos h]

theorem takeQuoted_other {c : Char} (hc : c ≠ quote) (h : ¬ isLineBreak c = true) (t : Text) :
    takeQuoted quote (c :: t) = (c :: (takeQuoted quote t).1, (takeQuoted quote t).2) := by
  cases t with
  | nil =>
    show takeQuoted quote [c] = ([c], false, [])
    rw [takeQuoted, if_neg hc, if_neg h]
  | cons next rest => rw [takeQuoted, if_neg hc, if_neg h]

/-- Induction on a text as a quoted text is read: a doubled quote, a quote that closes, a line
break, any other character. -/
@[elab_as_elim]
theorem takeQuoted_induction (quote : Char) {motive : Text → Prop} (nil : motive [])
    (pair : ∀ t, motive t → motive (quote :: quote :: t))
    (close : ∀ t, t.head? ≠ some quote → motive (quote :: t))
    (stop : ∀ c t, c ≠ quote → isLineBreak c = true → motive (c :: t))
    (other : ∀ c t, c ≠ quote → ¬ isLineBreak c = true → motive t → motive (c :: t))
    (t : Text) : motive t := by
  induction t using takeQuoted.induct quote with
  | case1 => exact nil
  | case2 => exact close [] (by simp)
  | case3 c hc hbreak => exact stop c [] hc hbreak
  | case4 c hc hbreak => exact other c [] hc hbreak nil
  | case5 rest taken closed more heq ih => exact pair rest ih
  | case6 next rest hnext => exact close (next :: rest) fun h => hnext (Option.some.inj h)
  | case7 c next rest hc hbreak => exact stop c (next :: rest) hc hbreak
  | case8 c next rest hc hbreak taken closed more heq ih =>
    exact other c (next :: rest) hc hbreak ih

/-- What a quoted text takes is a quoted text of its own. -/
theorem takeQuoted_taken (quote : Char) (t : Text) : takeQuoted quote (takeQuoted quote t).1
    = ((takeQuoted quote t).1, (takeQuoted quote t).2.1, []) := by
  induction t using takeQuoted_induction quote with
  | nil => rfl
  | pair t ih => rw [takeQuoted_pair, takeQuoted_pair, ih]
  | close t h => rw [takeQuoted_close h, takeQuoted_close (by simp)]
  | stop c t hc h => rw [takeQuoted_break hc h, takeQuoted]
  | other c t hc h ih => rw [takeQuoted_other hc h, takeQuoted_other hc h, ih]

/-- A line break behind the text ends a quoted text that the end of the text would end. -/
theorem takeQuoted_append_break {b : Char} (hb : b ≠ quote) (hbreak : isLineBreak b = true)
    (t more : Text) : takeQuoted quote (t ++ b :: more) = ((takeQuoted quote t).1,
      (takeQuoted quote t).2.1, (takeQuoted quote t).2.2 ++ b :: more) := by
  induction t using takeQuoted_induction quote with
  | nil => rw [List.nil_append, takeQuoted_break hb hbreak, takeQuoted, List.nil_append]
  | pair t ih =>
    rw [takeQuoted_pair, List.cons_append, List.cons_append, takeQuoted_pair, ih]
  | close t h =>
    have hhead : (t ++ b :: more).head? ≠ some quote := by
      cases t with
      | nil => exact fun heq => hb (Option.some.inj heq)
      | cons d t => exact h
    rw [takeQuoted_close h, List.cons_append, takeQuoted_close hhead]
  | stop c t hc h => rw [takeQuoted_break hc h, List.cons_append, takeQuoted_break hc h]
  | other c t hc h ih => rw [takeQuoted_other hc h, List.cons_append, takeQuoted_other hc h, ih]

/-! ## What all scans have in common -/

/-- Whether a lexeme would go on over a line break behind it. -/
def runsOn : Lexeme → Bool
  | .token _ _ (some .openComment) => true
  | _ => false

theorem runsOn_iff {l : Lexeme} :
    l.runsOn = true ↔ ∃ kind text, l = .token kind text (some .openComment) := by
  unfold runsOn
  split <;> simp_all

/-- Whether a function of the text behind a character `c` is a scan. -/
structure IsScan (c : Char) (scan : Text → Lexeme × Text) : Prop where
  rereads : ∀ rest, ∃ own, (scan rest).1.text = c :: own ∧ scan own = ((scan rest).1, [])
  stops : ∀ rest, (scan rest).1.runsOn = false → ∀ more,
    scan (rest ++ '\n' :: more) = ((scan rest).1, (scan rest).2 ++ '\n' :: more)
  takesAll : ∀ rest, (scan rest).1.runsOn = true → (scan rest).2 = []

variable {c : Char}

/-- Lexemes of one character do not depend on what is behind them. -/
theorem isScan_single (l : Lexeme) (htext : l.text = [c]) (hruns : l.runsOn = false) :
    IsScan c fun rest => (l, rest) where
  rereads _ := ⟨[], htext, rfl⟩
  stops _ _ _ := rfl
  takesAll _ h := absurd (hruns.symm.trans h) (by decide)

theorem takeWhile_append_break {continues : Char → Bool} (hbreak : continues '\n' = false)
    (rest more : Text) :
    (rest ++ '\n' :: more).takeWhile continues = rest.takeWhile continues := by
  induction rest with
  | nil => exact List.takeWhile_cons_of_neg (by simp [hbreak])
  | cons d rest ih => rw [List.cons_append, List.takeWhile_cons, List.takeWhile_cons, ih]

theorem isScan_run (kind : Text → TokenKind) {continues : Char → Bool}
    (hbreak : continues '\n' = false) (c : Char) : IsScan c (run kind continues c) where
  rereads rest := by
    have hdrop : (rest.takeWhile continues).dropWhile continues = [] :=
      List.dropWhile_eq_nil_iff.mpr fun _ => List.mem_takeWhile_imp
    refine ⟨rest.takeWhile continues, rfl, ?_⟩
    rw [run, List.takeWhile_idem, hdrop]
    rfl
  stops rest _ more := by
    have htake := takeWhile_append_break hbreak rest more
    have hdrop : (rest ++ '\n' :: more).dropWhile continues
        = rest.dropWhile continues ++ '\n' :: more := by
      have hwhole := (rest ++ '\n' :: more).takeWhile_append_dropWhile (p := continues)
      rw [htake] at hwhole
      refine List.append_cancel_left (hwhole.trans ?_)
      rw [← List.append_assoc, List.takeWhile_append_dropWhile]
    rw [run, htake, hdrop]
    rfl
  takesAll _ h := by cases h

theorem isScan_quotedToken (kind : TokenKind) {flaw : Flaw} (hflaw : flaw ≠ .openComment)
    {quote : Char} (hquote : '\n' ≠ quote) : IsScan quote (quotedToken kind flaw quote) where
  rereads rest := by
    refine ⟨(takeQuoted quote rest).1, rfl, ?_⟩
    rw [quotedToken, takeQuoted_taken]
    rfl
  stops rest _ more := by
    rw [quotedToken, takeQuoted_append_break hquote rfl]
    rfl
  takesAll rest h := by
    unfold quotedToken at h
    cases hclosed : (takeQuoted quote rest).2.1 <;> cases flaw <;> simp_all [runsOn]

theorem slash_plain {rest : Text} (hline : rest.head? ≠ some '/') (hblock : rest.head? ≠ some '*') :
    slash rest = plain .slash ['/'] rest := by
  unfold slash
  split
  · exact absurd rfl hline
  · exact absurd rfl hblock
  · rfl

/-- A text behind a slash: a line comment, a block comment, or neither. -/
theorem slash_cases (rest : Text) : (∃ t, rest = '/' :: t) ∨ (∃ t, rest = '*' :: t) ∨
    rest.head? ≠ some '/' ∧ rest.head? ≠ some '*' := by
  rcases rest with _ | ⟨c, t⟩
  · exact Or.inr (Or.inr ⟨by simp, by simp⟩)
  · by_cases hline : c = '/'
    · exact Or.inl ⟨t, by rw [hline]⟩
    · by_cases hblock : c = '*'
      · exact Or.inr (Or.inl ⟨t, by rw [hblock]⟩)
      · exact Or.inr (Or.inr ⟨by simpa using hline, by simpa using hblock⟩)

theorem isScan_line : IsScan '/' (run (fun _ => .comment) (!isLineBreak ·) '/') :=
  isScan_run _ rfl '/'

theorem slash_block (t : Text) : slash ('*' :: t)
    = (.token .comment ('/' :: '*' :: (takeComment t).1)
        (if (takeComment t).2.1 then none else some .openComment), (takeComment t).2.2) := rfl

theorem isScan_slash : IsScan '/' slash where
  rereads rest := by
    rcases slash_cases rest with ⟨t, rfl⟩ | ⟨t, rfl⟩ | ⟨hline, hblock⟩
    · obtain ⟨own, htext, hown⟩ := isScan_line.rereads ('/' :: t)
      obtain rfl : own = '/' :: t.takeWhile (!isLineBreak ·) := (List.cons.inj htext).2.symm
      exact ⟨_, rfl, hown⟩
    · refine ⟨'*' :: (takeComment t).1, rfl, ?_⟩
      rw [slash_block, slash_block, takeComment_taken]
    · exact ⟨[], by rw [slash_plain hline hblock]; rfl, by rw [slash_plain hline hblock]; rfl⟩
  stops rest h more := by
    rcases slash_cases rest with ⟨t, rfl⟩ | ⟨t, rfl⟩ | ⟨hline, hblock⟩
    · exact isScan_line.stops ('/' :: t) rfl more
    · have hclosed : (takeComment t).2.1 = true := by
        by_contra hopen
        simp [slash_block, hopen, runsOn] at h
      rw [List.cons_append, slash_block, takeComment_append_of_closed hclosed, slash_block, hclosed]
    · rw [slash_plain hline hblock]
      cases rest with
      | nil => rfl
      | cons d t => exact slash_plain hline hblock
  takesAll rest h := by
    rcases slash_cases rest with ⟨t, rfl⟩ | ⟨t, rfl⟩ | ⟨hline, hblock⟩
    · cases h
    · refine takeComment_rest_of_open ?_
      by_contra hclosed
      simp [slash_block, hclosed, runsOn] at h
    · rw [slash_plain hline hblock] at h
      cases h

/-- A character that makes a pair with one character `d` behind it, and stands alone otherwise. -/
theorem isScan_pair {scan : Text → Lexeme × Text} (one two : Lexeme) {d : Char} (hd : d ≠ '\n')
    (hone : one.text = [c] ∧ one.runsOn = false) (htwo : two.text = [c, d] ∧ two.runsOn = false)
    (hpair : ∀ t, scan (d :: t) = (two, t))
    (halone : ∀ rest, rest.head? ≠ some d → scan rest = (one, rest)) : IsScan c scan := by
  have hcases (rest : Text) : (∃ t, rest = d :: t) ∨ rest.head? ≠ some d := by
    rcases rest with _ | ⟨e, t⟩
    · exact Or.inr (by simp)
    · by_cases he : e = d
      · exact Or.inl ⟨t, by rw [he]⟩
      · exact Or.inr (by simpa using he)
  refine ⟨fun rest => ?_, fun rest h more => ?_, fun rest h => ?_⟩ <;>
    rcases hcases rest with ⟨t, rfl⟩ | hrest
  · exact ⟨[d], by rw [hpair, htwo.1], by rw [hpair, hpair]⟩
  · exact ⟨[], by rw [halone rest hrest, hone.1], by rw [halone rest hrest, halone [] (by simp)]⟩
  · rw [List.cons_append, hpair, hpair]
  · have hhead : (rest ++ '\n' :: more).head? ≠ some d := by
      cases rest with
      | nil => exact fun h => hd (Option.some.inj h).symm
      | cons e t => exact hrest
    rw [halone rest hrest, halone _ hhead]
  · rw [hpair, htwo.2] at h
    cases h
  · rw [halone rest hrest, hone.2] at h
    cases h

/-- The lexeme of a character that makes no pair and starts nothing longer. -/
def alone (c : Char) : Lexeme :=
  match TokenKind.ofCharacter? c with
  | some kind => .token kind [c] none
  | none => .stray c

theorem operator_single {c : Char} (hcolon : c ≠ ':') (hdot : c ≠ '.') (rest : Text) :
    operator c rest = (alone c, rest) := by
  unfold operator alone
  split
  case h_5 => cases TokenKind.ofCharacter? c <;> rfl
  all_goals contradiction

theorem operator_colon {rest : Text} (h : rest.head? ≠ some '=') :
    operator ':' rest = (.token .colon [':'] none, rest) := by
  unfold operator
  split <;> first | rfl | contradiction

theorem operator_dot {rest : Text} (h : rest.head? ≠ some '.') :
    operator '.' rest = (.token .dot ['.'] none, rest) := by
  unfold operator
  split <;> first | rfl | contradiction

theorem isScan_operator (c : Char) : IsScan c (operator c) := by
  by_cases hcolon : c = ':'
  · subst hcolon
    exact isScan_pair (.token .colon [':'] none) (.token .assign [':', '='] none)
      (show '=' ≠ '\n' by decide) ⟨rfl, rfl⟩ ⟨rfl, rfl⟩ (fun _ => rfl) fun _ => operator_colon
  by_cases hdot : c = '.'
  · subst hdot
    exact isScan_pair (.token .dot ['.'] none) (.token .dotDot ['.', '.'] none)
      (show '.' ≠ '\n' by decide) ⟨rfl, rfl⟩ ⟨rfl, rfl⟩ (fun _ => rfl) fun _ => operator_dot
  · rw [show operator c = _ from funext (operator_single hcolon hdot)]
    refine isScan_single (alone c) ?_ ?_ <;> unfold alone <;>
      cases TokenKind.ofCharacter? c <;> rfl

/-! ## The scan that a first character picks -/

/-- Which scan reads what is behind a first character. -/
theorem front_eq (fresh : Bool) (c : Char) : front fresh c =
    if isBlank c then fun rest => (.blank c, rest)
    else if c = '/' then slash
    else if c = '#' ∧ fresh then run (fun _ => .directive) (!isLineBreak ·) c
    else if c = '\'' then quotedToken .string .openString '\''
    else if c = '"' then quotedToken .quotedIdentifier .openIdentifier '"'
    else if isDigit c then run (fun _ => .integer) isDigit c
    else if startsWord c then run TokenKind.ofWord continuesWord c
    else operator c := by
  funext rest
  unfold front
  split_ifs <;> rfl

/-- What holds of every scan, with what is known about the character that picks it, holds of
`front`. -/
theorem front_induction {motive : (Text → Lexeme × Text) → Prop} (fresh : Bool) (c : Char)
    (blank : isBlank c = true → motive fun rest => (.blank c, rest))
    (slash : c = '/' → motive slash)
    (directive : c = '#' → fresh = true → motive (run (fun _ => .directive) (!isLineBreak ·) c))
    (string : c = '\'' → motive (quotedToken .string .openString '\''))
    (quotedIdentifier : c = '"' → motive (quotedToken .quotedIdentifier .openIdentifier '"'))
    (integer : isDigit c = true → motive (run (fun _ => .integer) isDigit c))
    (word : startsWord c = true → motive (run TokenKind.ofWord continuesWord c))
    (operator : ¬ isBlank c = true → ¬ (c = '#' ∧ fresh = true) → motive (operator c)) :
    motive (front fresh c) := by
  rw [front_eq]
  split_ifs with hblank hslash hdirective hstring hquoted hinteger hword
  · exact blank hblank
  · exact slash hslash
  · exact directive hdirective.1 hdirective.2
  · exact string hstring
  · exact quotedIdentifier hquoted
  · exact integer hinteger
  · exact word hword
  · exact operator hblank hdirective

/-- **Every first character picks a scan.** -/
theorem isScan_front (fresh : Bool) (c : Char) : IsScan c (front fresh c) := by
  refine front_induction fresh c ?_ ?_ ?_ ?_ ?_ ?_ ?_ ?_
  · intro _
    exact isScan_single (.blank c) rfl rfl
  · rintro rfl
    exact isScan_slash
  · intro _ _
    exact isScan_run _ rfl c
  · rintro rfl
    exact isScan_quotedToken _ (by decide) (by decide)
  · rintro rfl
    exact isScan_quotedToken _ (by decide) (by decide)
  · intro _
    exact isScan_run _ (by decide) c
  · intro _
    exact isScan_run _ (by decide) c
  · intro _ _
    exact isScan_operator c

/-- A token does not depend on what is before it on its line. -/
theorem front_true_of_token {fresh : Bool} {rest : Text} {kind : TokenKind} {text : Text}
    {flaw : Option Flaw} (h : (front fresh c rest).1 = .token kind text flaw) :
    front true c = front fresh c := by
  cases fresh with
  | true => rfl
  | false =>
    have hc : c ≠ '#' := by
      rintro rfl
      cases h
    rw [front_eq, front_eq]
    simp only [hc, false_and, if_false]

end Assay.Lexeme
