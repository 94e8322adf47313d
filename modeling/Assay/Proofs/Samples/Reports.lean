import Assay.Proofs.Lexing.Place
import Assay.Proofs.Runs.Answers
import Assay.Proofs.Samples.Fields
import Assay.Proofs.Templates.Literals

/-!
# Reports about fields

On every document the flag analyzer reports the fields whose body does not name the flag property,
each from its keyword to its closing brace, and nothing keeps it from doing so (`flagReports_eq`).
The reports are in the order of the fields and clear of each other (`pairwise_reports`), and fields
further on in the text are reported further on (`reportsOf_map_shift`).
-/

namespace Assay.Sample

/-! ## What is reported -/

/-- What the flag analyzer reports on a document, once it is compiled. -/
def flagReports (document : Document) (project : Project) (options overrides : Options) :
    Outcome (List Diagnostic) := do
  let c ← Engine.inProcess.compile document project options
  c.analyzerDiagnostics [fieldFlagAnalyzer] overrides

/-- The message about a field. -/
def flagMessage (name : Text) : String :=
  "Field '" ++ String.ofList name ++ "' does not set the Flag property"

/-- The report about a field. -/
def report (f : Field) : Diagnostic := ⟨missingFlag.id, f.span, flagMessage f.name, .warning⟩

/-- The reports about those fields that do not set the flag property. -/
def reportsOf (fs : List Field) : List Diagnostic := (fs.filter fun f => !f.setsFlag).map report

theorem create_missingFlag (span : Span) (name : Text) :
    missingFlag.create span [.text (String.ofList name)] none
      = .ok ⟨missingFlag.id, span, flagMessage name, .warning⟩ := by
  have hformat : missingFlag.messageFormat.toList
      = "Field '".toList ++ '{' :: '0' :: '}' :: "' does not set the Flag property".toList := by
    decide +kernel
  have hbefore : ∀ c ∈ "Field '".toList, c ≠ '{' ∧ c ≠ '}' := by simp
  have hafter : ∀ c ∈ "' does not set the Flag property".toList, c ≠ '{' ∧ c ≠ '}' := by simp
  have hargs : ¬ [Value.text (String.ofList name)].isEmpty = true := Bool.false_ne_true
  have hmessage : missingFlag.messageFor [.text (String.ofList name)] = .ok (flagMessage name) := by
    rw [Descriptor.messageFor, if_neg hargs, hformat, Template.fill_single hbefore hafter]
    simp only [Except.map, String.ofList_append, String.ofList_toList, flagMessage]
  rw [Descriptor.create, hmessage]
  rfl

theorem callback_fieldFlagAnalyzer (context : AnalysisContext) :
    fieldFlagAnalyzer.callback context = .give (reportsOf (fields context.tokens)) := by
  have hcreate (f : Field) :
      (missingFlag.create f.span [.text (String.ofList f.name)] none).mapError Fault.template
        = pure (report f) := by
    rw [create_missingFlag]
    rfl
  simp only [fieldFlagAnalyzer, hcreate, List.mapM_pure]
  rfl

/-- **The flag analyzer reports the fields that do not set the flag property.** -/
theorem flagReports_eq (document : Document) (project : Project) (options overrides : Options) :
    flagReports document project options overrides
      = .done (reportsOf (fields (tokenize document.body))) := by
  have hdeclared : ∀ d ∈ reportsOf (fields (tokenize document.body)),
      fieldFlagAnalyzer.declares d.id = true := by
    intro d hd
    obtain ⟨f, -, rfl⟩ := List.mem_map.mp hd
    simp [fieldFlagAnalyzer, Analyzer.declares, report]
  refine (Compilation.analyzerDiagnostics_of_give (callback_fieldFlagAnalyzer _) hdeclared).trans ?_
  exact congrArg Outcome.done (List.append_nil _)

/-! ## One report among the others -/

theorem reportsOf_append (fs fs' : List Field) :
    reportsOf (fs ++ fs') = reportsOf fs ++ reportsOf fs' := by
  rw [reportsOf, List.filter_append, List.map_append, reportsOf, reportsOf]

theorem reportsOf_cons_of_setsFlag {f : Field} (h : f.setsFlag = true) (fs : List Field) :
    reportsOf (f :: fs) = reportsOf fs := by
  rw [reportsOf, List.filter_cons_of_neg (by rw [h]; exact Bool.false_ne_true), reportsOf]

/-- A report is about a field, and the others are about the fields before and behind it. -/
theorem exists_field_of_reportsOf {fs : List Field} {earlier later : List Diagnostic}
    {d : Diagnostic} (h : reportsOf fs = earlier ++ d :: later) :
    ∃ fs₁ f fs₂, fs = fs₁ ++ f :: fs₂ ∧ earlier = reportsOf fs₁ ∧ d = report f ∧
      later = reportsOf fs₂ := by
  obtain ⟨before, rest, hfilter, rfl, hrest⟩ := List.map_eq_append_iff.mp h
  obtain ⟨f, after, rfl, rfl, rfl⟩ := List.map_eq_cons_iff.mp hrest
  obtain ⟨fs₁, fs', rfl, rfl, hf⟩ := List.filter_eq_append_iff.mp hfilter
  obtain ⟨skipped, fs₂, rfl, hskipped, -, rfl⟩ := List.filter_eq_cons_iff.mp hf
  -- fields that are not reported stand between the one before and this one
  have hnone : reportsOf skipped = [] :=
    List.map_eq_nil_iff.mpr (List.filter_eq_nil_iff.mpr hskipped)
  refine ⟨fs₁ ++ skipped, f, fs₂, (List.append_assoc _ _ _).symm, ?_, rfl, rfl⟩
  rw [reportsOf_append, hnone, List.append_nil]
  rfl

/-! ## Where fields are reported -/

theorem Field.closing_mem_behindKeyword (f : Field) : f.closing ∈ f.behindKeyword :=
  List.mem_append_right _ (List.mem_singleton_self _)

/-- The tokens of all fields are in ascending order. -/
theorem pairwise_tokens_fields (source : Text) :
    ((fields (tokenize source)).flatMap Field.tokens).Pairwise
      fun a b => a.span.stop ≤ b.span.start :=
  (pairwise_tokenize source).sublist (flatMap_tokens_sublist _)

/-- A field starts before its closing brace stops. -/
theorem Field.start_le_stop {source : Text} {f : Field} (h : f ∈ fields (tokenize source)) :
    f.keyword.span.start ≤ f.closing.span.stop := by
  have htokens := (List.pairwise_flatMap.mp (pairwise_tokens_fields source)).1 f h
  have hbehind : f.keyword.span.stop ≤ f.closing.span.start :=
    List.rel_of_pairwise_cons htokens f.closing_mem_behindKeyword
  have hkeyword := f.keyword.span.start_le_stop
  have hclosing := f.closing.span.start_le_stop
  omega

/-- A field is reported up to its closing brace. -/
theorem Field.stop_span {source : Text} {f : Field} (h : f ∈ fields (tokenize source)) :
    f.span.stop = f.closing.span.stop :=
  Span.between_stop (Field.start_le_stop h)

/-- **Reports are in ascending order and do not overlap.** -/
theorem pairwise_reports (source : Text) : (reportsOf (fields (tokenize source))).Pairwise
    fun d e => d.span.stop ≤ e.span.start := by
  have hfields := (List.pairwise_flatMap.mp (pairwise_tokens_fields source)).2
  refine List.pairwise_map.mpr (List.Pairwise.filter _ (hfields.imp_of_mem ?_))
  intro f g hf _ hfg
  have hclosing : f.closing ∈ f.tokens := List.mem_cons_of_mem _ f.closing_mem_behindKeyword
  have hbehind := hfg f.closing hclosing g.keyword List.mem_cons_self
  rw [← Field.stop_span hf] at hbehind
  exact hbehind

/-! ## Reports further on in the text -/

theorem Field.setsFlag_map_shift (f : Field) (n : Nat) :
    (f.map (·.shift n)).setsFlag = f.setsFlag := by
  rw [setsFlag, map, List.any_map]
  rfl

theorem Field.name_map_shift (f : Field) (n : Nat) : (f.map (·.shift n)).name = f.name := by
  rw [name, map_behindKeyword, List.getElem?_map, name]
  cases f.behindKeyword[3]? <;> rfl

theorem Field.span_map_shift (f : Field) (n : Nat) :
    (f.map (·.shift n)).span = f.span.shift n := by
  show Span.mk _ ((f.closing.span.shift n).stop - (f.keyword.span.start + n)) = _
  rw [Span.shift_stop, Nat.add_sub_add_right]
  rfl

theorem report_map_shift (f : Field) (n : Nat) :
    report (f.map (·.shift n)) = (report f).shift n := by
  rw [report, f.name_map_shift, f.span_map_shift]
  rfl

theorem reportsOf_map_shift (fs : List Field) (n : Nat) :
    reportsOf (fs.map (Field.map (·.shift n))) = (reportsOf fs).map (·.shift n) := by
  have hsets : (fun f : Field => !f.setsFlag) ∘ Field.map (·.shift n) = fun f => !f.setsFlag :=
    funext fun f => congrArg (!·) (f.setsFlag_map_shift n)
  have hreport : report ∘ Field.map (·.shift n) = (·.shift n) ∘ report :=
    funext fun f => report_map_shift f n
  rw [reportsOf, List.filter_map, hsets, List.map_map, hreport, reportsOf, List.map_map]

end Assay.Sample
