import Assay.Proofs.Edits.Substitution
import Assay.Proofs.Lexing.Insertion
import Assay.Proofs.Samples.Reports
import Mathlib.Data.List.Forall2

/-!
# Fixes of the flag property

A field without the flag property is reported, and the fixes write the property in front of its
closing brace. That repairs exactly this field: all other reports stay, and so do the lexical errors,
those behind the brace further on in the text (`flag_fixes_repair`).

The text that is inserted has lexemes of its own and makes none of the other ones different
(`insertable_flag`). Its tokens are no business of the scan for fields, so the fields are the same,
but for the one whose body now names the property (`fields_insert`, `setsFlag_extend`).
-/

namespace Assay.Sample

open Lexeme

/-! ## The text that sets the flag property -/

/-- The text that sets the flag property to a value. -/
def flagText (value : String) : Text := (" Flag=" ++ value ++ "; ").toList

/-- The lexemes of that text. -/
def flagLexemes (value : String) : List Lexeme :=
  [.blank ' ', .token .identifier "Flag".toList none, .token .equals ['='] none,
    .token (.ofWord value.toList) value.toList none, .token .semicolon [';'] none, .blank ' ']

/-- The values that fixes set the flag property to. -/
def flagValues : List String := ["true", "false"]

variable {value : String} (hvalue : value ∈ flagValues)

include hvalue in
theorem insertable_flag : Insertable (flagText value) (flagLexemes value) where
  starts := by
    revert value
    decide +kernel
  cut fresh := by
    revert value
    cases fresh <;> decide +kernel

include hvalue in
theorem isInert_flag (offset : Nat) :
    ∀ t ∈ place tokensAt offset (flagLexemes value), t.kind.isInert = true := by
  have hinert : ∀ kind ∈ [.identifier, .equals, .ofWord value.toList, .semicolon],
      TokenKind.isInert kind = true := by
    revert value
    decide +kernel
  intro t ht
  have hkinds : (place tokensAt offset (flagLexemes value)).map Token.kind
      = [.identifier, .equals, .ofWord value.toList, .semicolon] := rfl
  exact hinert t.kind (hkinds ▸ List.mem_map_of_mem ht)

/-- A field with the text in its body names the property. -/
theorem setsFlag_extend (f : Field) (value : String) (offset : Nat) (closing : Token) :
    (f.extend (place tokensAt offset (flagLexemes value)) closing).setsFlag = true := by
  have hflag : Text.lower "Flag".toList = "flag".toList := by decide +kernel
  rw [Field.setsFlag, Field.extend, List.any_append, Bool.or_eq_true]
  refine Or.inr (List.any_eq_true.mpr
    ⟨Token.ofLexeme .identifier "Flag".toList (offset + 1), List.mem_cons_self, ?_⟩)
  rw [Bool.and_eq_true, decide_eq_true_eq, decide_eq_true_eq]
  exact ⟨rfl, hflag⟩

/-! ## What the fixes offer -/

/-- The actions that a provider offers for a diagnostic of a document, once it is compiled. -/
def flagFixes (p : FixProvider) (document : Document) (project : Project) (options : Options)
    (d : Diagnostic) : Outcome (List Action) := do
  let c ← Engine.inProcess.compile document project options
  (c.fixesFor p d).outcome

/-- The text with another one at an offset. -/
def insertedAt (t : Text) (offset : Nat) (added : Text) : Text :=
  t.take offset ++ added ++ t.drop offset

/-- The action that sets the flag property puts its text in front of the closing brace. -/
theorem flagAction_eq (context : FixContext) (hpos : 0 < context.diagnostic.span.stop)
    (hstop : context.diagnostic.span.stop ≤ context.document.body.length)
    (title key value : String) : flagAction context title key value
      = .ok ⟨title, some key, .ok (insertedAt context.document.body
          (context.diagnostic.span.stop - 1) (flagText value))⟩ := by
  have hspan : Span.ofParts ((context.diagnostic.span.stop : Int) - 1) 0
      = .ok ⟨context.diagnostic.span.stop - 1, 0⟩ := by
    rw [Span.ofParts, if_neg (by omega)]
    simp
  have hedit : insertBeforeBrace context (" Flag=" ++ value ++ "; ")
      = .ok ⟨⟨context.diagnostic.span.stop - 1, 0⟩, flagText value⟩ := by
    rw [insertBeforeBrace, Edit.insert, hspan]
    rfl
  have happly : applyEdits context.document.body
      [⟨⟨context.diagnostic.span.stop - 1, 0⟩, flagText value⟩]
        = .ok (insertedAt context.document.body (context.diagnostic.span.stop - 1)
            (flagText value)) := by
    rw [Edit.applyEdits_singleton, Edit.apply, if_neg (by rw [Span.stop_mk]; omega)]
    rfl
  simp only [flagAction, hedit, bind, Except.bind, pure, Except.pure, Action.ofEdits, happly]
  rfl

section Offers

variable {document : Document} {d : Diagnostic} (hid : d.id = missingFlag.id)
  (hpos : 0 < d.span.stop) (hstop : d.span.stop ≤ document.body.length)
include hid hpos hstop

theorem flagFixes_add (project : Project) (options : Options) :
    flagFixes addFlagFixProvider document project options d
      = .done [⟨"Add Flag property", some "add-flag",
          .ok (insertedAt document.body (d.span.stop - 1) (flagText "true"))⟩] := by
  refine Compilation.outcome_fixesFor_of_give (hid ▸ List.mem_cons_self) ?_
  simp only [addFlagFixProvider, bind, Except.bind,
    flagAction_eq ⟨document, _, d⟩ hpos hstop]
  rfl

theorem flagFixes_set (project : Project) (options : Options) :
    flagFixes setFlagFixProvider document project options d
      = .done (flagValues.map fun value => ⟨"Set Flag to " ++ value, some ("set-flag-" ++ value),
          .ok (insertedAt document.body (d.span.stop - 1) (flagText value))⟩) := by
  refine Compilation.outcome_fixesFor_of_give (hid ▸ List.mem_cons_self) ?_
  simp only [setFlagFixProvider, flagAction_eq ⟨document, _, d⟩ hpos hstop]
  rfl

end Offers

/-! ## Fields in the text with another one at a brace -/

/-- **The fields stay when a text is inserted at the end of one**, which only gets the tokens of the
text, if none of these is a parenthesis or a brace. -/
theorem fields_insert {source : Text} {fs₁ fs₂ : List Field} {f : Field}
    (h : fields (tokenize source) = fs₁ ++ f :: fs₂) :
    ∃ a b before after, source = a ++ '}' :: b ∧
      ofText true (a ++ '}' :: b) = before ++ brace :: after ∧ before.flatMap text = a ∧
      f.closing = Token.ofLexeme .rightBrace ['}'] a.length ∧
      ∀ added lexemes, Insertable added lexemes →
        (∀ t ∈ place tokensAt a.length lexemes, t.kind.isInert = true) →
        fields (tokenize (a ++ added ++ '}' :: b))
          = fs₁ ++ f.extend (place tokensAt a.length lexemes) (f.closing.shift added.length)
            :: fs₂.map (Field.map (·.shift added.length)) := by
  obtain ⟨front, behind, htokens, hclosing, rfl, hextend⟩ := exists_split_of_fields h
  obtain ⟨a, b, before, after, rfl, hlexemes, ha, rfl, hbrace⟩ :=
    exists_brace_of_tokenize htokens hclosing
  refine ⟨a, b, before, after, rfl, hlexemes, ha, hbrace, fun added lexemes hadded hinert => ?_⟩
  obtain ⟨behind', hold, hnew⟩ := tokenize_insert hadded hlexemes ha
  rw [htokens, hbrace] at hold
  obtain rfl : behind = behind' := List.tail_eq_of_cons_eq (List.append_cancel_left hold)
  have hkind (t : Token) : (t.shift added.length).kind = t.kind := rfl
  have hclosing' : (f.closing.shift added.length).kind = .rightBrace := hclosing
  have hkinds : (behind.map (·.shift added.length)).map Token.kind = behind.map Token.kind := by
    rw [List.map_map]
    rfl
  rw [hnew, ← hbrace, List.map_cons, hextend _ _ _ hinert hclosing' hkinds,
    fields_map hkind]

/-- A report ends behind the closing brace of its field. -/
theorem stop_report {source : Text} {f : Field} {offset : Nat} (h : f ∈ fields (tokenize source))
    (hclosing : f.closing = Token.ofLexeme .rightBrace ['}'] offset) :
    (report f).span.stop = offset + 1 := by
  refine (Field.stop_span h).trans ?_
  rw [hclosing]
  rfl

theorem bounds_of_mem_reports {source : Text} {d : Diagnostic}
    (h : d ∈ reportsOf (fields (tokenize source))) :
    0 < d.span.stop ∧ d.span.stop ≤ source.length := by
  obtain ⟨f, hf, rfl⟩ := List.mem_map.mp h
  have hmem := (List.mem_filter.mp hf).1
  obtain ⟨fs₁, fs₂, hfields⟩ := List.append_of_mem hmem
  obtain ⟨a, b, -, -, rfl, -, -, hbrace, -⟩ := fields_insert hfields
  have hstop := stop_report hmem hbrace
  rw [hstop, List.length_append, List.length_cons]
  omega

/-! ## Repairs -/

/-- A text in which a diagnostic of another text is repaired: something is inserted in front of the
last character of its stretch, and the other diagnostics and the lexical errors are as they were,
those behind that place further on. -/
structure Repairs (reports : Text → Outcome (List Diagnostic)) (t : Text)
    (earlier : List Diagnostic) (d : Diagnostic) (later : List Diagnostic)
    (added fixed : Text) : Prop where
  inserted : fixed = insertedAt t (d.span.stop - 1) added
  reported : reports fixed = .done (earlier ++ later.map (·.shift added.length))
  lexical : lexicalErrors fixed = (lexicalErrors t).map fun e =>
    if e.span.stop < d.span.stop then e else e.shift added.length

include hvalue in
/-- Setting the flag property repairs the report about a field. -/
theorem repairs_flag {t : Text} {earlier later : List Diagnostic} {d : Diagnostic}
    (h : reportsOf (fields (tokenize t)) = earlier ++ d :: later) :
    Repairs (fun fixed => .done (reportsOf (fields (tokenize fixed)))) t earlier d later
      (flagText value) (insertedAt t (d.span.stop - 1) (flagText value)) := by
  obtain ⟨fs₁, f, fs₂, hfields, rfl, rfl, rfl⟩ := exists_field_of_reportsOf h
  obtain ⟨a, b, before, after, rfl, hlexemes, ha, hbrace, hinsert⟩ := fields_insert hfields
  have hstop : (report f).span.stop = a.length + 1 :=
    stop_report (hfields ▸ List.mem_append_right _ List.mem_cons_self) hbrace
  have hinserted : insertedAt (a ++ '}' :: b) ((report f).span.stop - 1) (flagText value)
      = a ++ flagText value ++ '}' :: b := by
    rw [insertedAt, hstop, Nat.add_sub_cancel, List.take_left, List.drop_left]
  have hadded := insertable_flag hvalue
  constructor
  · rfl
  · rw [hinserted, hinsert _ _ hadded (isInert_flag hvalue _), reportsOf_append,
      reportsOf_cons_of_setsFlag (setsFlag_extend f value _ _), reportsOf_map_shift]
  · rw [hinserted, lexicalErrors_insert hadded rfl hlexemes ha, hstop]
    simp only [Nat.lt_succ_iff]

/-- The fix providers, with the values that their actions set the flag property to. -/
def flagOffers : List (FixProvider × List String) :=
  [(addFlagFixProvider, ["true"]), (setFlagFixProvider, flagValues)]

/-- **A fix of the flag property repairs exactly the diagnostic that it is offered for.** Reports
are in ascending order, and every provider offers one action for each of its values. -/
theorem flag_fixes_repair (document : Document) (project : Project) (options overrides : Options) :
    ∃ reported, flagReports document project options overrides = .done reported ∧
      ∀ earlier d later, reported = earlier ++ d :: later →
        (∀ e ∈ earlier, e.span.stop ≤ d.span.start) ∧
        (∀ e ∈ later, d.span.stop ≤ e.span.start) ∧
        ∀ offer ∈ flagOffers, ∃ actions,
          flagFixes offer.1 document project options d = .done actions ∧
          List.Forall₂ (fun value a => ∃ fixed, a.result = .ok fixed ∧
            Repairs
              (fun t => flagReports { document with text := some t } project options overrides)
              document.body earlier d later (flagText value) fixed) offer.2 actions := by
  refine ⟨_, flagReports_eq document project options overrides, fun earlier d later h => ?_⟩
  have hpairwise := pairwise_reports document.body
  rw [h, List.pairwise_append, List.pairwise_cons] at hpairwise
  obtain ⟨-, ⟨hlater, -⟩, hearlier⟩ := hpairwise
  have hmem : d ∈ reportsOf (fields (tokenize document.body)) :=
    h ▸ List.mem_append_right _ List.mem_cons_self
  have hid : d.id = missingFlag.id := by
    obtain ⟨f, -, rfl⟩ := List.mem_map.mp hmem
    rfl
  obtain ⟨hpos, hstop⟩ := bounds_of_mem_reports hmem
  have hrepairs {value : String} (hvalue : value ∈ flagValues) : Repairs
      (fun t => flagReports { document with text := some t } project options overrides)
      document.body earlier d later (flagText value)
      (insertedAt document.body (d.span.stop - 1) (flagText value)) := by
    simp only [flagReports_eq]
    exact repairs_flag hvalue h
  refine ⟨fun e he => hearlier e he d List.mem_cons_self, hlater, fun offer hoffer => ?_⟩
  rcases List.mem_pair.mp hoffer with rfl | rfl
  · refine ⟨_, flagFixes_add hid hpos hstop project options, ?_⟩
    exact .cons ⟨_, rfl, hrepairs List.mem_cons_self⟩ .nil
  · refine ⟨_, flagFixes_set hid hpos hstop project options, List.forall₂_map_right_iff.mpr ?_⟩
    exact List.forall₂_same.mpr fun value hvalue => ⟨_, rfl, hrepairs hvalue⟩

/-- A document with two fields that do not set the flag property. -/
def twoFields : Document :=
  ⟨1, 0, "Fields.al", some "field(1; A; T) \x7b \x7d ? field(2; B; T) \x7b \x7d".toList⟩

/-- Fixing the first of two fields moves the report about the second one by the length of the text
that is inserted. -/
theorem flag_fixes_repair_first : ∃ a fixed,
    flagFixes addFlagFixProvider twoFields default []
      ⟨"AL0001", ⟨0, 18⟩, "Field 'A' does not set the Flag property", .warning⟩ = .done [a] ∧
    a.result = .ok fixed ∧
    flagReports { twoFields with text := some fixed } default [] []
      = .done [⟨"AL0001", ⟨33, 18⟩, "Field 'B' does not set the Flag property", .warning⟩] := by
  obtain ⟨reported, hreported, hrepair⟩ := flag_fixes_repair twoFields default [] []
  have hboth : reported = [] ++
      ⟨"AL0001", ⟨0, 18⟩, "Field 'A' does not set the Flag property", .warning⟩ ::
      [⟨"AL0001", ⟨21, 18⟩, "Field 'B' does not set the Flag property", .warning⟩] := by
    rw [flagReports_eq] at hreported
    cases hreported
    decide +kernel
  obtain ⟨-, -, hoffers⟩ := hrepair _ _ _ hboth
  obtain ⟨actions, hactions, hall⟩ := hoffers _ List.mem_cons_self
  obtain ⟨a, rest, ⟨fixed, hresult, hfixed⟩, hnil, rfl⟩ := List.forall₂_cons_left_iff.mp hall
  obtain rfl := List.forall₂_nil_left_iff.mp hnil
  exact ⟨a, fixed, hactions, hresult, hfixed.reported⟩

end Assay.Sample
