import Assay.Proofs.Edits.Substitution
import Assay.Proofs.Lexing.Quotes
import Assay.Proofs.Runs.Answers
import Assay.Sample

/-!
# Putting a selected identifier in quotes

The refactoring is offered where exactly one identifier is selected, and nowhere else. Only one token
has the selected span (`find?_identifier`), so it offers one action, and applying that action changes
no other token and no lexical error (`quoting_keeps_program`).
-/

namespace Assay.Sample

open Lexeme

variable {source : Text} {front behind : List Token} {t : Token}

/-- A token that is not the end of the text has characters, which are those of the text. -/
theorem bounds_of_mem_tokenize (h : t ∈ tokenize source) (ht : t.kind ≠ .eof) :
    0 < t.span.length ∧ t.span.stop ≤ source.length := by
  rcases List.mem_append.mp h with h | h
  · obtain ⟨before, kind, text, flaw, after, hsplit, rfl⟩ := mem_tokens_iff.mp h
    exact ⟨List.length_pos_iff.mpr (sound_here hsplit).1, (textOf_here hsplit).1⟩
  · rw [List.mem_singleton.mp h] at ht
    exact absurd rfl ht

/-- Whether a token is the identifier with some span. -/
abbrev isSelected (s : Span) (t : Token) : Bool := t.kind = .identifier && t.span = s

/-- **An identifier is found by its span.** -/
theorem find?_identifier (h : tokenize source = front ++ t :: behind) (ht : t.kind = .identifier) :
    (tokenize source).find? (isSelected t.span) = some t := by
  have hmem : t ∈ tokenize source := h ▸ List.mem_append_right _ List.mem_cons_self
  obtain ⟨hpos, -⟩ := bounds_of_mem_tokenize hmem (by rw [ht]; decide)
  have hpairwise := pairwise_tokenize source
  rw [h, List.pairwise_append] at hpairwise
  rw [h, List.find?_append]
  have hfront : front.find? (isSelected t.span) = none := by
    refine List.find?_eq_none.mpr fun e he hselected => ?_
    have hspan : e.span = t.span := by
      simp only [isSelected, Bool.and_eq_true, decide_eq_true_eq] at hselected
      exact hselected.2
    have hstop := hpairwise.2.2 e he t List.mem_cons_self
    rw [hspan, Span.stop] at hstop
    omega
  rw [hfront, Option.none_or, List.find?_cons_of_pos (by simp [isSelected, ht])]

/-! ## What is offered -/

/-- The actions that are offered for a selected span of a document, once it is compiled. -/
def quoteOffers (document : Document) (project : Project) (options : Options) (s : Span) :
    Outcome (List Action) := do
  let c ← Engine.inProcess.compile document project options
  (c.refactoringsFor quoteIdentifierRefactoring s).outcome

/-- The action that puts an identifier in quotes and comes to a text. -/
def quoteAction (t : Token) (fixed : Text) : Action :=
  ⟨"Quote '" ++ String.ofList t.lexeme ++ "'", none, .ok fixed⟩

variable {document : Document}

theorem callback_quote_of_none {context : RefactoringContext}
    (h : context.tokens.find? (isSelected context.span) = none) :
    quoteIdentifierRefactoring.callback context = .give [] := by
  simp only [quoteIdentifierRefactoring]
  rw [h]
  rfl

theorem callback_quote_of_some (context : RefactoringContext)
    (h : context.tokens.find? (isSelected context.span) = some t)
    (hstop : t.span.stop ≤ context.document.body.length) :
    quoteIdentifierRefactoring.callback context = .give [quoteAction t
      (context.document.body.take t.span.start ++ ('"' :: t.lexeme ++ ['"'])
        ++ context.document.body.drop t.span.stop)] := by
  simp only [quoteIdentifierRefactoring]
  rw [h]
  simp only [Action.ofEdits, Edit.applyEdits_singleton, Edit.apply, if_neg (Nat.not_lt.mpr hstop)]
  rfl

theorem quoteOffers_of_give {s : Span} {actions : List Action}
    (h : quoteIdentifierRefactoring.callback ⟨document, tokenize document.body, s⟩ = .give actions)
    (project : Project) (options : Options) :
    quoteOffers document project options s = .done actions :=
  Component.invoke_of_give h

/-- **Quoting an identifier keeps the rest of the program.** For a span that is that of an identifier
with no quote next to it, one action is offered, and what it comes to differs from the text by the
quotes around that identifier alone. For every other span nothing is offered. -/
theorem quoting_keeps_program (document : Document) (project : Project) (options : Options)
    (s : Span) :
    (∀ front t behind, tokenize document.body = front ++ t :: behind → t.kind = .identifier →
      t.span = s → (document.body.take s.start).getLast? ≠ some '"' →
      (document.body.drop s.stop).head? ≠ some '"' →
      ∃ fixed, quoteOffers document project options s = .done [quoteAction t fixed] ∧
        Requotes document.body front t behind fixed) ∧
    ((∀ t ∈ tokenize document.body, t.kind = .identifier → t.span ≠ s) →
      quoteOffers document project options s = .done []) := by
  constructor
  · rintro front t behind h ht rfl hbefore hafter
    have hmem : t ∈ tokenize document.body := h ▸ List.mem_append_right _ List.mem_cons_self
    obtain ⟨-, hstop⟩ := bounds_of_mem_tokenize hmem (by rw [ht]; decide)
    have hcallback := callback_quote_of_some ⟨document, tokenize document.body, t.span⟩
      (find?_identifier h ht) hstop
    exact ⟨_, quoteOffers_of_give hcallback project options,
      requotes_identifier h ht hbefore hafter⟩
  · intro hnone
    refine quoteOffers_of_give (callback_quote_of_none ?_) project options
    refine List.find?_eq_none.mpr fun t ht hselected => ?_
    simp only [isSelected, Bool.and_eq_true, decide_eq_true_eq] at hselected
    exact hnone t ht hselected.1 hselected.2

/-- A document with an identifier and an open string behind it. -/
def flagAndOpenString : Document := ⟨1, 0, "Flag.al", some "x := Flag; 'a".toList⟩

/-- The identifier gets its quotes, and the error about the string behind it moves on by two. -/
theorem quoting_keeps_program_flag : ∃ fixed,
    quoteOffers flagAndOpenString default [] ⟨5, 4⟩
        = .done [⟨"Quote 'Flag'", none, .ok fixed⟩] ∧
      fixed = "x := \"Flag\"; 'a".toList ∧
      lexicalErrors fixed = [⟨"AL0000", ⟨13, 2⟩, "Unterminated string literal", .error⟩] := by
  have htokens : tokenize flagAndOpenString.body
      = [⟨.identifier, "x".toList, ⟨0, 1⟩⟩, ⟨.assign, ":=".toList, ⟨2, 2⟩⟩]
        ++ ⟨.identifier, "Flag".toList, ⟨5, 4⟩⟩ :: [⟨.semicolon, ";".toList, ⟨9, 1⟩⟩,
          ⟨.string, "'a".toList, ⟨11, 2⟩⟩, ⟨.eof, [], ⟨13, 0⟩⟩] := by
    decide +kernel
  obtain ⟨fixed, hoffers, hfixed⟩ := (quoting_keeps_program flagAndOpenString default [] ⟨5, 4⟩).1
    _ _ _ htokens rfl rfl (by decide +kernel) (by decide +kernel)
  refine ⟨fixed, hoffers, hfixed.text, hfixed.errors.trans ?_⟩
  decide +kernel

end Assay.Sample
