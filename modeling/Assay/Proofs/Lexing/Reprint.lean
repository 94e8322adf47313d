import Assay.Proofs.Lexing.Lines

/-!
# Printing tokens and reading them again

The lexemes of a text, printed one on a line, are read as the same tokens. Each token is read again
from its own characters; the line break behind it keeps it apart from the next one, since only the
last token of a text can be an open comment.
-/

namespace Assay

namespace Lexeme

/-- The kind and the characters of a token. -/
def spelling? : Lexeme → Option (TokenKind × Text)
  | .token kind text _ => some (kind, text)
  | _ => none

/-- A token is read again from its own characters, which start a fresh line. -/
theorem ofText_text {fresh : Bool} {t : Text} {l : Lexeme} (h : l ∈ ofText fresh t)
    (htoken : l.spelling?.isSome = true) : ofText true l.text = [l] := by
  fun_induction ofText fresh t with
  | case1 => cases h
  | case2 fresh c rest step ih =>
    rcases List.mem_cons.mp h with rfl | h
    · obtain ⟨own, htext, hown⟩ := (isScan_front fresh c).rereads rest
      have hfresh : front true c = front fresh c := by
        cases hstep : step.1 with
        | blank d => rw [hstep] at htoken; cases htoken
        | stray d => rw [hstep] at htoken; cases htoken
        | token kind text flaw => exact front_true_of_token hstep
      rw [htext, ofText_cons, hfresh, hown, ofText]
    · exact ih h

/-- Only the last lexeme of a text is an open comment. -/
theorem pairwise_runsOn (fresh : Bool) (t : Text) :
    (ofText fresh t).Pairwise fun l _ => l.runsOn = false := by
  fun_induction ofText fresh t with
  | case1 => exact List.Pairwise.nil
  | case2 fresh c rest step ih =>
    refine List.pairwise_cons.mpr ⟨fun l hl => ?_, ih⟩
    by_contra hruns
    have hnothing : step.2 = [] :=
      (isScan_front fresh c).takesAll rest (Bool.of_not_eq_false hruns)
    rw [hnothing, ofText] at hl
    cases hl

/-- **Lexemes that are read from their own characters are read from lines of them.** -/
theorem ofText_join {ls : List Lexeme} (hself : ∀ l ∈ ls, ofText true l.text = [l])
    (hruns : ls.Pairwise fun l _ => l.runsOn = false) :
    ofText true (Text.join ['\n'] (ls.map text)) = ls.intersperse (.blank '\n') := by
  induction ls with
  | nil => rw [List.map_nil, Text.join, ofText, List.intersperse_nil]
  | cons l ls ih =>
    have hl := hself l List.mem_cons_self
    have hls := ih (fun m hm => hself m (List.mem_cons_of_mem _ hm)) hruns.of_cons
    cases ls with
    | nil => rw [List.map_singleton, Text.join, hl, List.intersperse_singleton]
    | cons m ls =>
      have hstop : ∀ n ∈ ofText true l.text, n.runsOn = false := by
        rw [hl]
        intro n hn
        rw [List.mem_singleton.mp hn]
        exact List.rel_of_pairwise_cons hruns List.mem_cons_self
      have hline := ofText_append_line hstop (Text.join ['\n'] ((m :: ls).map text))
      rw [hls, hl, List.singleton_append, ← List.intersperse_cons_cons] at hline
      rw [← hline]
      simp only [List.map_cons, Text.join, List.append_assoc, List.singleton_append]

theorem filterMap_spelling?_intersperse (ls : List Lexeme) :
    (ls.intersperse (.blank '\n')).filterMap spelling? = ls.filterMap spelling? := by
  induction ls with
  | nil => rfl
  | cons l ls ih =>
    cases ls with
    | nil => rfl
    | cons m ls =>
      rw [List.intersperse_cons_cons, List.filterMap_cons, List.filterMap_cons_none rfl, ih,
        ← List.filterMap_cons]

theorem map_spelling_place (offset : Nat) (ls : List Lexeme) :
    (place tokensAt offset ls).map (fun t => (t.kind, t.lexeme)) = ls.filterMap spelling? := by
  induction ls generalizing offset with
  | nil => rfl
  | cons l ls ih =>
    rw [place, List.map_append, ih]
    cases l <;> rfl

theorem map_lexeme_place (offset : Nat) (ls : List Lexeme) :
    (place tokensAt offset ls).map Token.lexeme
      = (ls.filter fun l => l.spelling?.isSome).map text := by
  induction ls generalizing offset with
  | nil => rfl
  | cons l ls ih =>
    rw [place, List.map_append, ih]
    cases l <;> rfl

theorem map_spelling_tokenize (source : Text) :
    (tokenize source).map (fun t => (t.kind, t.lexeme))
      = (ofText true source).filterMap spelling? ++ [(.eof, [])] := by
  rw [tokenize, List.map_append, map_spelling_place]
  rfl

end Lexeme

open Lexeme in
/-- **Printing the tokens of a source one on a line and lexing them gives the same tokens.** -/
theorem tokenize_join_lexemes (source : Text) :
    (tokenize (Text.join ['\n'] ((tokenize source).dropLast.map Token.lexeme))).map
        (fun t => (t.kind, t.lexeme))
      = (tokenize source).dropLast.map (fun t => (t.kind, t.lexeme)) ++ [(.eof, [])] := by
  have hself : ∀ l ∈ (ofText true source).filter (fun l => l.spelling?.isSome),
      ofText true l.text = [l] := by
    intro l hl
    obtain ⟨hmem, htoken⟩ := List.mem_filter.mp hl
    exact ofText_text hmem htoken
  have hlines := ofText_join hself ((pairwise_runsOn true source).filter _)
  have hfilter : ((ofText true source).filter fun l => l.spelling?.isSome).filterMap spelling?
      = (ofText true source).filterMap spelling? := by
    rw [List.filterMap_filter]
    congr 1
    funext l
    cases l <;> rfl
  rw [tokenize_dropLast, map_lexeme_place, map_spelling_place, map_spelling_tokenize, hlines,
    filterMap_spelling?_intersperse, hfilter]

end Assay
