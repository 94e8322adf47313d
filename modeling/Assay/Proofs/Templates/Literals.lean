import Assay.Template.Basic

/-!
# Templates with one field

Characters other than braces stand for themselves in a template (`fillFrom_literals`). So a template
that has one field, which asks for a text, gives that text between what is in front of the field and
what is behind it (`fill_single`).
-/

namespace Assay.Template

variable {args : List Value} {levels bound : Nat} {numbering : Numbering}

/-- A character that is no brace stands for itself. -/
theorem fillFrom_literal {c : Char} (hopening : c ≠ '{') (hclosing : c ≠ '}') (rest : Text) :
    fillFrom args (levels + 1) (bound + 1) numbering (c :: rest)
      = (fillFrom args (levels + 1) bound numbering rest).map
        fun filled => (c :: filled.1, filled.2) := by
  rw [fillFrom]
  · cases fillFrom args (levels + 1) bound numbering rest <;> rfl
  all_goals simp_all

theorem fillFrom_nil :
    fillFrom args (levels + 1) bound numbering [] = .ok ([], numbering) := by
  cases bound <;> rw [fillFrom]

/-- A text without braces stands for itself. -/
theorem fillFrom_literals {literal : Text} (h : ∀ c ∈ literal, c ≠ '{' ∧ c ≠ '}') (rest : Text) :
    fillFrom args (levels + 1) (literal.length + bound) numbering (literal ++ rest)
      = (fillFrom args (levels + 1) bound numbering rest).map
        fun filled => (literal ++ filled.1, filled.2) := by
  induction literal with
  | nil =>
    rw [List.length_nil, Nat.zero_add, List.nil_append]
    cases fillFrom args (levels + 1) bound numbering rest <;> rfl
  | cons c literal ih =>
    obtain ⟨⟨hopening, hclosing⟩, hliteral⟩ := List.forall_mem_cons.mp h
    rw [List.length_cons, Nat.add_right_comm, List.cons_append,
      fillFrom_literal hopening hclosing, ih hliteral]
    cases fillFrom args (levels + 1) bound numbering rest <;> rfl

theorem takeField_first (rest : Text) :
    takeField ('0' :: '}' :: rest) = .ok (⟨['0'], none, [], false⟩, rest) := by
  have hname : takeName ('0' :: '}' :: rest) = .ok (['0'], some '}', rest) := by
    simp [takeName]
  rw [takeField, hname]
  rfl

theorem lookUp_first (v : Value) (args : List Value) :
    lookUp (v :: args) .undecided ['0'] = .ok (.value v, .manual) := by
  have hnumber : number .undecided ['0'] = .ok (some 0, .manual) := rfl
  have hfirst : splitFirst ['0'] = (['0'], []) := rfl
  simp only [lookUp, hfirst, hnumber, bind, Except.bind]
  rfl

theorem layOut_text (s : String) : layOut [] (.value (.text s)) = .ok s.toList := by
  have hwritten : (Part.value (.text s)).written Part.text = .ok s := by
    simp [Part.written, Part.isWritable, Value.isWritable, Part.text, Value.toText]
  rw [layOut, hwritten]
  rfl

/-- The first field of a template may ask for the first argument, which is written plainly. -/
theorem fillFrom_first (s : String) (rest : Text) :
    fillFrom [.text s] (levels + 1) (bound + 1) .undecided ('{' :: '0' :: '}' :: rest)
      = (fillFrom [.text s] (levels + 1) bound .manual rest).map
        fun filled => (s.toList ++ filled.1, filled.2) := by
  rw [fillFrom]
  · rw [takeField_first]
    simp only [bind, Except.bind, lookUp_first, convert, Bool.false_eq_true, if_false, pure,
      Except.pure, layOut_text]
    cases fillFrom [.text s] (levels + 1) bound .manual rest <;> rfl
  all_goals simp

/-- **A template with one field gives the text that it asks for between its other parts.** -/
theorem fill_single {before after : Text} (hbefore : ∀ c ∈ before, c ≠ '{' ∧ c ≠ '}')
    (hafter : ∀ c ∈ after, c ≠ '{' ∧ c ≠ '}') (s : String) :
    fill (before ++ '{' :: '0' :: '}' :: after) [.text s]
      = .ok (before ++ s.toList ++ after) := by
  have hlength : (before ++ '{' :: '0' :: '}' :: after).length + 1
      = before.length + (after.length + 3 + 1) := by
    simp only [List.length_append, List.length_cons]
    omega
  have hbehind : fillFrom [.text s] 2 (after.length + 3) .manual (after ++ []) = _ :=
    fillFrom_literals hafter []
  rw [List.append_nil, fillFrom_nil] at hbehind
  rw [fill, hlength, fillFrom_literals hbefore, fillFrom_first, hbehind]
  simp [Except.map]

end Assay.Template
