import Assay.Proofs.Lexing.Place
import Assay.Proofs.Lexing.Scan

/-!
# Lines are cut apart

A line break ends every lexeme but an open comment. So if no comment is open at the end of a text, a
line break and another text behind it are cut as if they stood alone: the line is fresh, and nothing
of the first text is read again.
-/

namespace Assay

namespace Lexeme

theorem ofText_cons (fresh : Bool) (c : Char) (rest : Text) : ofText fresh (c :: rest)
    = (front fresh c rest).1
      :: ofText (keepsFresh fresh (front fresh c rest).1) (front fresh c rest).2 := by
  rw [ofText]

/-- **Lexemes of a text stay the same in front of a line break, and those behind it are those of a
text of its own.** -/
theorem ofText_append_line {fresh : Bool} {a : Text} (h : ∀ l ∈ ofText fresh a, l.runsOn = false)
    (b : Text) :
    ofText fresh (a ++ '\n' :: b) = ofText fresh a ++ .blank '\n' :: ofText true b := by
  fun_induction ofText fresh a with
  | case1 fresh =>
    rw [List.nil_append, ofText_cons, List.nil_append]
    rfl
  | case2 fresh c rest step ih =>
    have hstep := (isScan_front fresh c).stops rest (h _ List.mem_cons_self) b
    have hbehind := ih fun l hl => h l (List.mem_cons_of_mem _ hl)
    rw [List.cons_append, ofText_cons, hstep, List.cons_append, ← hbehind]

/-- An open comment is reported. -/
theorem runsOn_eq_false_of_lexicalErrors {source : Text}
    (h : ∀ d ∈ lexicalErrors source, d.message ≠ Flaw.openComment.message) :
    ∀ l ∈ ofText true source, l.runsOn = false := by
  intro l hl
  by_contra hruns
  obtain ⟨kind, text, rfl⟩ := runsOn_iff.mp (Bool.of_not_eq_false hruns)
  obtain ⟨before, after, hsplit⟩ := List.append_of_mem hl
  exact h _ (mem_place_zero_iff.mpr ⟨before, _, after, hsplit, List.mem_singleton_self _⟩) rfl

end Lexeme

theorem tokenize_dropLast (source : Text) :
    (tokenize source).dropLast = Lexeme.place Lexeme.tokensAt 0 (Lexeme.ofText true source) :=
  List.dropLast_concat

open Lexeme in
/-- **Lexing goes line by line.** If no comment is open at the end of a text, the tokens and errors
of the text with another one on the next line are those of the two texts. -/
theorem tokenize_append_line {a : Text}
    (h : ∀ d ∈ lexicalErrors a, d.message ≠ "Unterminated block comment") (b : Text) :
    (tokenize (a ++ '\n' :: b)).dropLast
        = (tokenize a).dropLast ++ (tokenize b).dropLast.map (·.shift (a.length + 1)) ∧
      lexicalErrors (a ++ '\n' :: b)
        = lexicalErrors a ++ (lexicalErrors b).map (·.shift (a.length + 1)) := by
  have hlexemes := ofText_append_line (runsOn_eq_false_of_lexicalErrors h) b
  have hwidth := width_ofText true a
  have hplace {α : Type} {yield : Nat → Lexeme → List α} {move : α → α}
      (hblank : yield a.length (.blank '\n') = [])
      (hmove : ∀ offset l, yield (offset + (a.length + 1)) l = (yield offset l).map move) :
      place yield 0 (ofText true (a ++ '\n' :: b))
        = place yield 0 (ofText true a) ++ (place yield 0 (ofText true b)).map move := by
    rw [hlexemes, place_append, place, hwidth, Nat.zero_add, hblank, List.nil_append,
      ← place_shift hmove, Nat.zero_add]
    rfl
  rw [tokenize_dropLast, tokenize_dropLast, tokenize_dropLast]
  exact ⟨hplace rfl fun offset l => tokensAt_add offset _ l,
    hplace rfl fun offset l => errorsAt_add offset _ l⟩

/-- A quoted text is open at the end of the first line, which ends with a carriage return, and the
next line starts with a directive. -/
theorem tokenize_append_line_open_string :
    (∀ d ∈ lexicalErrors "/*b*/ 'it\r".toList, d.message ≠ "Unterminated block comment") ∧
      (tokenize "/*b*/ 'it\r\n#if ?".toList).dropLast
        = [⟨.comment, "/*b*/".toList, ⟨0, 5⟩⟩, ⟨.string, "'it".toList, ⟨6, 3⟩⟩,
          ⟨.directive, "#if ?".toList, ⟨11, 5⟩⟩] ∧
      lexicalErrors "/*b*/ 'it\r\n#if ?".toList
        = [⟨"AL0000", ⟨6, 3⟩, "Unterminated string literal", .error⟩] := by
  have h : ∀ d ∈ lexicalErrors "/*b*/ 'it\r".toList, d.message ≠ "Unterminated block comment" := by
    decide +kernel
  obtain ⟨htokens, herrors⟩ := tokenize_append_line h "#if ?".toList
  refine ⟨h, htokens.trans ?_, herrors.trans ?_⟩ <;> decide +kernel

end Assay
