import Assay.Proofs.Runs.Faults
import Assay.Script

/-!
# What a run finds

A run that comes to findings has got to its check, and none of its calls has failed
(`Runner.succeeds_of_done`). So what it finds is put together from what the callbacks have given:
nothing gets lost on the way, nothing comes twice or in another order, and every diagnostic is under
an id that the analyzer which has reported it declares (`Runner.run_gathers_all`).

An engine may add reports of its own to those of the analyzers. The statements are about engines that
do not.
-/

namespace Assay

/-! ## Runs that come to findings -/

namespace Runner

variable {r : Runner} {next : Nat} {t : Text} {limit : Option TimeLimit} {c : Compilation}
  {check : Check} {found : Findings}

/-- What the engine has to complain about in the document ends the run before any call. -/
theorem execute_of_checkInput_raised {f : Fault} (h : checkInput r.config c = .raised f) :
    r.execute check c = ⟨[], .raised (f.pinOn r.engine.name)⟩ := by
  rw [execute, h]
  rfl

theorem execute_of_checkInput_stalled (h : checkInput r.config c = .stalled) :
    r.execute check c = ⟨[], .stalled⟩ := by
  rw [execute, h]
  rfl

theorem accepted_of_outcome_executeWithin {limit : Option TimeLimit}
    (h : (r.executeWithin limit check c).outcome = .done found) :
    (∀ l, limit = some l → l.isUsable = true) ∧ checkInput r.config c = .done () := by
  have htime : ∀ l, limit = some l → l.isUsable = true := by
    rintro l rfl
    rw [← @TimeLimit.fault?_eq_none_iff l check.kind]
    by_contra hsome
    obtain ⟨f, hf⟩ := Option.ne_none_iff_exists'.mp hsome
    rw [executeWithin_of_fault? hf] at h
    cases h
  refine ⟨htime, ?_⟩
  rw [executeWithin_of_inTime htime] at h
  cases haccepted : checkInput r.config c with
  | done u => rfl
  | raised f =>
    rw [execute_of_checkInput_raised haccepted] at h
    cases limit <;> cases h
  | stalled =>
    rw [execute_of_checkInput_stalled haccepted] at h
    cases limit <;> cases h

theorem starts_of_done (h : (r.run next check t limit).outcome = .done found) :
    ∃ c, r.Starts next t limit c := by
  by_cases hproject : r.config.projectName = ""
  · rw [run, runInside, setUp_of_projectName_eq hproject] at h
    cases h
  by_cases hdocument : r.config.documentName = ""
  · have hset := setUp_of_documentName_eq hproject hdocument next t
    rw [run, runInside, hset] at h
    cases h
  have hset := setUp_of_named hproject hdocument next t
  simp only [run, runInside, hset] at h
  cases hcompiled :
      r.engine.compile (r.document next t) (r.project next) r.config.compilerOptions with
  | done c =>
    rw [hcompiled] at h
    obtain ⟨htime, haccepted⟩ := accepted_of_outcome_executeWithin h
    exact ⟨c, hproject, hdocument, hcompiled, htime, haccepted⟩
  | raised f =>
    rw [hcompiled] at h
    cases h
  | stalled =>
    rw [hcompiled] at h
    cases h

/-- A run comes to findings only if all calls of its check succeed, and then to those of the check. -/
theorem succeeds_of_done (h : (r.run next check t limit).outcome = .done found) :
    ∃ c, r.Starts next t limit c ∧
      (∀ call ∈ check.calls c r.config.compilerOptions, call.Succeeds) ∧
      found = check.findings c r.config.compilerOptions := by
  obtain ⟨c, hstarts⟩ := starts_of_done h
  rcases Traced.succeed_or_exists_first (check.calls c r.config.compilerOptions) with
    hall | ⟨before, call, after, hsplit, hbefore, hcall⟩
  · rw [(run_of_succeeds hstarts hall).2] at h
    exact ⟨c, hstarts, hall, (Outcome.done.inj h).symm⟩
  · exact absurd h ((run_of_not_succeeds hstarts hsplit hbefore hcall).2 found)

end Runner

/-! ## Reports -/

/-- What an analyzer has reported is declared, if its call succeeds. -/
theorem Call.declares_of_succeeds {a : Analyzer} {context : AnalysisContext}
    (h : (Call.analysis a context).Succeeds) :
    ∀ d ∈ (a.callback context).given, a.declares d.id = true := by
  have hreview : (Call.analysis a context).review = .done () := by
    rw [← answer_of_returned h.1, answer_eq_done_iff.mpr h]
  rw [review, Compilation.checkDeclared] at hreview
  cases hfind : (a.callback context).given.find? (fun d => !a.declares d.id) with
  | none => simpa using hfind
  | some d =>
    rw [hfind] at hreview
    cases hreview

/-- An engine gives back what analyzers have reported on a document, and adds nothing of its own. -/
def Engine.AddsNothing (e : Engine) : Prop :=
  ∀ d p options c, e.compile d p options = .done c → c.extraDiagnostics = []

theorem Engine.inProcess_addsNothing : Engine.inProcess.AddsNothing := by
  intro d p options c h
  cases h
  rfl

namespace Compilation

variable {c : Compilation} {analyzers : List Analyzer} {options : Options}

/-- Diagnostics are what analyzers have reported on a compilation: one analyzer after the other, and
of each one all that it has given, in the order in which it has. All of it is under ids that the very
analyzer declares, and so looking for ids that some analyzer declares takes nothing away. -/
structure Gathers (c : Compilation) (analyzers : List Analyzer) (options : Options)
    (ds : List Diagnostic) : Prop where
  given : ds = analyzers.flatMap fun a =>
    (a.callback ⟨c.document, c.tokens, c.mergedOptions options⟩).given
  declared : ∀ a ∈ analyzers,
    ∀ d ∈ (a.callback ⟨c.document, c.tokens, c.mergedOptions options⟩).given,
      a.declares d.id = true
  kept : (ds.filter fun d => analyzers.any fun a => a.declares d.id) = ds

theorem gathers_reported (hextra : c.extraDiagnostics = [])
    (hsucceed : ∀ call ∈ c.analyses analyzers options, call.Succeeds) :
    c.Gathers analyzers options (c.reported analyzers options) := by
  have hdeclared : ∀ a ∈ analyzers,
      ∀ d ∈ (a.callback ⟨c.document, c.tokens, c.mergedOptions options⟩).given,
        a.declares d.id = true :=
    fun a ha => Call.declares_of_succeeds (hsucceed _ (List.mem_map_of_mem ha))
  refine ⟨?_, hdeclared, ?_⟩
  · rw [reported, hextra, List.append_nil, List.filter_eq_self]
    intro d hd
    obtain ⟨a, ha, hgiven⟩ := List.mem_flatMap.mp hd
    exact List.any_eq_true.mpr ⟨a, ha, hdeclared a ha d hgiven⟩
  · rw [reported, List.filter_filter]
    simp only [Bool.and_self]

/-- A fix run asks for the diagnostics with an id, at a place if one is given, as they were reported.
On offer are the actions that the provider gives for the first of them, in its order, then those for
the second, and so on; none for an id that it cannot fix. -/
structure Offers (c : Compilation) (p : FixProvider) (id : String) (locator : Option Locator)
    (found : Findings) : Prop where
  fixed : found.fixed = found.diagnostics.filter fun d =>
    d.id = id ∧ ∀ l ∈ locator, l.matchesSpan d.span c.document.body = true
  actions : found.actions = found.fixed.flatMap fun d =>
    if d.id ∈ p.fixable then (p.callback ⟨c.document, c.tokens, d⟩).given else []

section FixRuns

variable {p : FixProvider} {id : String} {locator : Option Locator}

theorem id_of_mem_targets {ds : List Diagnostic} {t : Text} {d : Diagnostic}
    (h : d ∈ ds.filter (isTarget id locator t)) : d.id = id :=
  Check.id_of_isTarget (List.mem_filter.mp h).2

theorem offers_findings :
    c.Offers p id locator ((Check.fixes p analyzers id locator).findings c options) := by
  refine ⟨List.filter_congr fun d _ => ?_, ?_⟩
  · cases locator <;> simp [isTarget]
  · -- all targets have the id that is asked for, so it is the same question for each of them
    rw [Check.findings, fixesGiven]
    split_ifs with hfixable
    · exact List.flatMap_congr fun d hd => (if_pos (id_of_mem_targets hd ▸ hfixable)).symm
    · exact (List.flatMap_eq_nil_iff.mpr fun d hd => if_neg (id_of_mem_targets hd ▸ hfixable)).symm

theorem calls_fixes : (Check.fixes p analyzers id locator).calls c options
    = c.analyses analyzers options ++ c.fixCalls p
        (((Check.fixes p analyzers id locator).findings c options).fixed.filter
          fun d => d.id ∈ p.fixable) := by
  rw [Check.calls]
  split_ifs with hfixable
  · rw [List.filter_eq_self.mpr fun d hd => decide_eq_true (id_of_mem_targets hd ▸ hfixable)]
    rfl
  · rw [List.filter_eq_nil_iff.mpr fun d hd => by rw [id_of_mem_targets hd]; simpa using hfixable]
    rfl

end FixRuns

end Compilation

/-! ## All that is found -/

namespace Runner

variable {r : Runner}

/-- **No result is lost, comes twice or out of its order, or is put down to another analyzer.** The
diagnostics of a run that comes to findings are what its analyzers have reported on the document, and
each analyzer is called once. A fix run does the same, and then calls the provider once for each
diagnostic that it is asked about, if it can fix the id. -/
theorem run_gathers_all (h : r.engine.AddsNothing) (next : Nat) (t : Text)
    (limit : Option TimeLimit) :
    (∀ analyzers found, (r.run next (.diagnostics analyzers) t limit).outcome = .done found →
      ∃ c, r.engine.compile (r.document next t) (r.project next) r.config.compilerOptions = .done c ∧
        c.Gathers analyzers r.config.compilerOptions found.diagnostics ∧
        (r.run next (.diagnostics analyzers) t limit).calls
          = c.analyses analyzers r.config.compilerOptions) ∧
    ∀ p analyzers id locator found,
      (r.run next (.fixes p analyzers id locator) t limit).outcome = .done found →
      ∃ c, r.engine.compile (r.document next t) (r.project next) r.config.compilerOptions = .done c ∧
        c.Gathers analyzers r.config.compilerOptions found.diagnostics ∧
        c.Offers p id locator found ∧
        (r.run next (.fixes p analyzers id locator) t limit).calls
          = c.analyses analyzers r.config.compilerOptions
            ++ c.fixCalls p (found.fixed.filter fun d => d.id ∈ p.fixable) := by
  refine ⟨fun analyzers found hdone => ?_, fun p analyzers id locator found hdone => ?_⟩
  · obtain ⟨c, hstarts, hsucceed, rfl⟩ := succeeds_of_done hdone
    have hextra := h _ _ _ c hstarts.compiled
    exact ⟨c, hstarts.compiled, Compilation.gathers_reported hextra hsucceed,
      (run_of_succeeds hstarts hsucceed).1⟩
  · obtain ⟨c, hstarts, hsucceed, rfl⟩ := succeeds_of_done hdone
    have hextra := h _ _ _ c hstarts.compiled
    refine ⟨c, hstarts.compiled,
      Compilation.gathers_reported hextra fun call hcall =>
        hsucceed call (List.mem_append_left _ hcall),
      Compilation.offers_findings, ?_⟩
    rw [(run_of_succeeds hstarts hsucceed).1, Compilation.calls_fixes]

/-- Two analyzers report under one id, the first of them twice on the same span and under another id
in between; the provider has two actions for each diagnostic. -/
theorem run_gathers_all_shared_id :
    let rule (id : String) : Descriptor := ⟨id, "", "", .warning⟩
    let a : Analyzer := Script.analyzer "A" .plain [rule "X", rule "Y"]
      [.report "X" "1" 0 1 none, .report "Y" "2" 0 1 none, .report "X" "1" 0 1 none]
    let b : Analyzer := Script.analyzer "B" .coroutine [rule "X"] [.report "X" "3" 0 1 none]
    let p : FixProvider := ⟨⟨"P", .plain, fun context => .give
      [⟨context.diagnostic.message, none, .ok []⟩, ⟨"other", none, .ok []⟩]⟩, ["X"]⟩
    let r : Runner := ⟨.inProcess, { Config.standard with failOnInputErrors := false }⟩
    r.engine.AddsNothing ∧
      ∃ found, (r.run 0 (.fixes p [a, b] "X" none) ['x'] none).outcome = .done found ∧
        found.diagnostics.map Diagnostic.message = ["1", "2", "1", "3"] ∧
        found.fixed.map Diagnostic.message = ["1", "1", "3"] ∧
        found.actions.map Action.title = ["1", "other", "1", "other", "3", "other"] := by
  intro rule a b p r
  have hdone : (r.run 0 (.fixes p [a, b] "X" none) ['x'] none).outcome = .done _ := rfl
  obtain ⟨c, hcompiled, hgathers, hoffers, -⟩ :=
    (run_gathers_all Engine.inProcess_addsNothing 0 ['x'] none).2 p [a, b] "X" none _ hdone
  cases hcompiled
  refine ⟨Engine.inProcess_addsNothing, _, hdone, ?_, ?_, ?_⟩
  · rw [hgathers.given]
    rfl
  · rw [hoffers.fixed, hgathers.given]
    rfl
  · rw [hoffers.actions, hoffers.fixed, hgathers.given]
    rfl

end Runner

end Assay
