import Assay.Diagnostic
import Assay.Line
import Assay.Token

/-!
# Lexemes

A source is cut from left to right into lexemes: blanks, tokens and stray characters. Put together
they are the source again, so nothing is lost. `place` then gives every lexeme its offset, turns the
tokens into `Token`s and reports stray characters and what is left open.

A directive runs from a `#` to the end of its line, if only blanks stand before it on that line; the
flag `fresh` carries that along.

## Termination

Every step takes at least one character: the text that `front` leaves is shorter than the text that
it is given.
-/

namespace Assay

/-! ## Scanning one token -/

/-- What a token lacks at the end. -/
inductive Flaw where
  | openComment
  | openString
  | openIdentifier
  deriving DecidableEq, Repr

/-- The flaw in words. -/
def Flaw.message : Flaw → String
  | .openComment => "Unterminated block comment"
  | .openString => "Unterminated string literal"
  | .openIdentifier => "Unterminated quoted identifier"

namespace Lexeme

/-- A comment's text up to its end, whether it ends, and what follows. -/
def takeComment : Text → Text × Bool × Text
  | [] => ([], false, [])
  | '*' :: '/' :: rest => (['*', '/'], true, rest)
  | c :: rest =>
    let (taken, closed, more) := takeComment rest
    (c :: taken, closed, more)

/-- A quoted text up to its closing quote, whether it has one, and what follows. A doubled quote
stands for the quote itself, and a line break leaves the quoted text open. -/
def takeQuoted (quote : Char) : Text → Text × Bool × Text
  | [] => ([], false, [])
  | [c] =>
    if c = quote then ([c], true, [])
    else if isLineBreak c then ([], false, [c])
    else ([c], false, [])
  | c :: next :: rest =>
    if c = quote then
      if next = quote then
        let (taken, closed, more) := takeQuoted quote rest
        (c :: next :: taken, closed, more)
      else ([c], true, next :: rest)
    else if isLineBreak c then ([], false, c :: next :: rest)
    else
      let (taken, closed, more) := takeQuoted quote (next :: rest)
      (c :: taken, closed, more)

/-- Whether a character may start a word. -/
def startsWord (c : Char) : Bool := isLetter c || c == '_'

/-- Whether a word may go on with a character. -/
def continuesWord (c : Char) : Bool := isAlphanumeric c || c == '_'

/-- A scan loses no character. -/
theorem takeComment_append (t : Text) : (takeComment t).1 ++ (takeComment t).2.2 = t := by
  fun_induction takeComment t <;> simp_all

theorem takeQuoted_append (quote : Char) (t : Text) :
    (takeQuoted quote t).1 ++ (takeQuoted quote t).2.2 = t := by
  fun_induction takeQuoted quote t <;> simp_all

end Lexeme

/-! ## Lexemes -/

/-- A piece of a source. -/
inductive Lexeme where
  | blank (c : Char)
  /-- A character that starts no token. -/
  | stray (c : Char)
  | token (kind : TokenKind) (text : Text) (flaw : Option Flaw)
  deriving DecidableEq, Repr

namespace Lexeme

/-- The characters of a lexeme. -/
def text : Lexeme → Text
  | .blank c | .stray c => [c]
  | .token _ text _ => text

/-- A token of some characters, without a flaw. -/
def plain (kind : TokenKind) (text rest : Text) : Lexeme × Text := (.token kind text none, rest)

/-- A token of a first character and those of a class that follow it. -/
def run (kind : Text → TokenKind) (continues : Char → Bool) (c : Char) (rest : Text) :
    Lexeme × Text :=
  let text := c :: rest.takeWhile continues
  (.token (kind text) text none, rest.dropWhile continues)

/-- What a slash starts: a comment of either kind, or an operator. -/
def slash : Text → Lexeme × Text
  | '/' :: rest => run (fun _ => .comment) (!isLineBreak ·) '/' ('/' :: rest)
  | '*' :: rest =>
    let (taken, closed, more) := takeComment rest
    (.token .comment ('/' :: '*' :: taken) (if closed then none else some .openComment), more)
  | rest => plain .slash ['/'] rest

/-- What a quote starts. -/
def quotedToken (kind : TokenKind) (flaw : Flaw) (quote : Char) (rest : Text) : Lexeme × Text :=
  let (taken, closed, more) := takeQuoted quote rest
  (.token kind (quote :: taken) (if closed then none else some flaw), more)

/-- What an operator, a bracket or a separator starts. -/
def operator : Char → Text → Lexeme × Text
  | ':', '=' :: rest => plain .assign [':', '='] rest
  | ':', rest => plain .colon [':'] rest
  | '.', '.' :: rest => plain .dotDot ['.', '.'] rest
  | '.', rest => plain .dot ['.'] rest
  | c, rest =>
    match TokenKind.ofCharacter? c with
    | some kind => plain kind [c] rest
    | none => (.stray c, rest)

/-- The first lexeme of a text that starts with `c`, and the text behind it. -/
def front (fresh : Bool) (c : Char) (rest : Text) : Lexeme × Text :=
  if isBlank c then (.blank c, rest)
  else if c = '/' then slash rest
  else if c = '#' ∧ fresh then run (fun _ => .directive) (!isLineBreak ·) c rest
  else if c = '\'' then quotedToken .string .openString '\'' rest
  else if c = '"' then quotedToken .quotedIdentifier .openIdentifier '"' rest
  else if isDigit c then run (fun _ => .integer) isDigit c rest
  else if startsWord c then run TokenKind.ofWord continuesWord c rest
  else operator c rest

/-! ## Nothing is lost -/

/-- Whether a lexeme and the text behind it make up a text, and the lexeme is not empty. -/
def Cuts (step : Lexeme × Text) (t : Text) : Prop := step.1.text ++ step.2 = t ∧ step.1.text ≠ []

theorem cuts_run (kind : Text → TokenKind) (continues : Char → Bool) (c : Char) (rest : Text) :
    Cuts (run kind continues c rest) (c :: rest) := by
  simp [Cuts, run, text]

theorem cuts_slash (rest : Text) : Cuts (slash rest) ('/' :: rest) := by
  unfold slash
  split
  · exact cuts_run _ _ _ _
  · exact ⟨congrArg ('/' :: '*' :: ·) (takeComment_append _), by simp [text]⟩
  · exact ⟨rfl, by simp [plain, text]⟩

theorem cuts_quotedToken (kind : TokenKind) (flaw : Flaw) (quote : Char) (rest : Text) :
    Cuts (quotedToken kind flaw quote rest) (quote :: rest) :=
  ⟨congrArg (quote :: ·) (takeQuoted_append quote rest), by simp [quotedToken, text]⟩

theorem cuts_operator (c : Char) (rest : Text) : Cuts (operator c rest) (c :: rest) := by
  unfold operator
  split
  all_goals first
    | exact ⟨rfl, by simp [plain, text]⟩
    | (split <;> exact ⟨rfl, by simp [plain, text]⟩)

theorem cuts_front (fresh : Bool) (c : Char) (rest : Text) : Cuts (front fresh c rest) (c :: rest) := by
  unfold front
  by_cases hb : isBlank c
  · rw [if_pos hb]; exact ⟨rfl, by simp [text]⟩
  rw [if_neg hb]
  by_cases hs : c = '/'
  · rw [if_pos hs, hs]; exact cuts_slash rest
  rw [if_neg hs]
  by_cases hd : c = '#' ∧ fresh
  · rw [if_pos hd]; exact cuts_run _ _ _ _
  rw [if_neg hd]
  by_cases hq : c = '\''
  · rw [if_pos hq, hq]; exact cuts_quotedToken _ _ _ _
  rw [if_neg hq]
  by_cases hi : c = '"'
  · rw [if_pos hi, hi]; exact cuts_quotedToken _ _ _ _
  rw [if_neg hi]
  by_cases hn : isDigit c
  · rw [if_pos hn]; exact cuts_run _ _ _ _
  rw [if_neg hn]
  by_cases hw : startsWord c
  · rw [if_pos hw]; exact cuts_run _ _ _ _
  rw [if_neg hw]
  exact cuts_operator c rest

/-- The text behind the first lexeme is shorter. -/
theorem front_length_lt (fresh : Bool) (c : Char) (rest : Text) :
    (front fresh c rest).2.length < (c :: rest).length := by
  have happ := congrArg List.length (cuts_front fresh c rest).1
  have hpos := List.length_pos_iff.2 (cuts_front fresh c rest).2
  simp only [List.length_append] at happ
  omega

/-- Whether only blanks stand before the place behind a lexeme on its line. -/
def keepsFresh (fresh : Bool) : Lexeme → Bool
  | .blank c => isLineBreak c || fresh
  | _ => false

/-- The lexemes of a text. -/
def ofText (fresh : Bool) : Text → List Lexeme
  | [] => []
  | c :: rest =>
    let step := front fresh c rest
    step.1 :: ofText (keepsFresh fresh step.1) step.2
termination_by t => t.length
decreasing_by exact front_length_lt fresh c rest

/-- Nothing is lost by cutting a source into lexemes. -/
theorem flatMap_text_ofText (fresh : Bool) (t : Text) : (ofText fresh t).flatMap text = t := by
  fun_induction ofText fresh t with
  | case1 => rfl
  | case2 fresh c rest step ih =>
    rw [List.flatMap_cons, ih]
    exact (cuts_front fresh c rest).1

/-! ## Tokens and errors -/

/-- The id of lexical errors. -/
def errorId : String := "AL0000"

/-- The error about a stray character. -/
def strayMessage (c : Char) : String := "Unexpected character: " ++ String.ofList (Text.quoted [c])

/-- The errors about a lexeme at an offset. -/
def errorsAt (offset : Nat) : Lexeme → List Diagnostic
  | .blank _ => []
  | .stray c => [⟨errorId, ⟨offset, 1⟩, strayMessage c, .error⟩]
  | .token _ _ none => []
  | .token _ text (some flaw) => [⟨errorId, ⟨offset, text.length⟩, flaw.message, .error⟩]

/-- The token of a lexeme at an offset, if it is one. -/
def tokensAt (offset : Nat) : Lexeme → List Token
  | .token kind text _ => [Token.ofLexeme kind text offset]
  | _ => []

/-- What each lexeme yields at its offset, put together. -/
def place {α : Type} (yield : Nat → Lexeme → List α) (offset : Nat) : List Lexeme → List α
  | [] => []
  | l :: rest => yield offset l ++ place yield (offset + l.text.length) rest

end Lexeme

/-- The tokens of a source, with the end of the text behind them. -/
def tokenize (source : Text) : List Token :=
  Lexeme.place Lexeme.tokensAt 0 (Lexeme.ofText true source) ++ [Token.ofLexeme .eof [] source.length]

/-- The lexical errors of a source, in the order of their places. -/
def lexicalErrors (source : Text) : List Diagnostic :=
  Lexeme.place Lexeme.errorsAt 0 (Lexeme.ofText true source)

end Assay
