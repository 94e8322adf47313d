import Assay.Proofs.Lexing.Cover
import Assay.Proofs.Runs.Faults
import Assay.Script

/-!
# Documents with errors

Settings may say that a document with lexical errors is not to be looked at. The statements are about
two runs that differ in this alone. If the document has no errors the runs are the same
(`Runner.run_gated_eq`). If it has some, one of them is refused with all of the errors before any
callback is called, and the other one is left to its components (`Runner.run_gated`). Names go before
the errors: without a name for its project or document either run is refused in the same way, before
the document is read (`Runner.run_gated_unnamed`).
-/

namespace Assay.Runner

variable {r : Runner} {next : Nat} {t : Text} {limit : Option TimeLimit} {check : Check}

/-- The runner with the say on documents with errors set. -/
def gated (r : Runner) (on : Bool) : Runner :=
  { r with config := { r.config with failOnInputErrors := on } }

theorem checkInput_gated (hnone : lexicalErrors t = []) (on : Bool) :
    checkInput (r.gated on).config ((r.gated on).compilation next t) = .done () := by
  rw [checkInput_compilation, if_neg fun h => h.2 hnone]

/-- Once a document is accepted, it does not matter whether it had to be. -/
theorem executeWithin_gated (hnone : lexicalErrors t = []) (next : Nat) (check : Check)
    (limit : Option TimeLimit) :
    (r.gated true).executeWithin limit check ((r.gated true).compilation next t)
      = (r.gated false).executeWithin limit check ((r.gated false).compilation next t) := by
  have hexecute : (r.gated true).execute check ((r.gated true).compilation next t)
      = (r.gated false).execute check ((r.gated false).compilation next t) := by
    rw [execute, execute, checkInput_gated hnone, checkInput_gated hnone]
    rfl
  cases limit with
  | none => exact hexecute
  | some l => rw [executeWithin, executeWithin, hexecute]

/-- The gate changes nothing where it finds no errors, or is not reached. -/
theorem run_gated_eq (h : r.engine = .inProcess)
    (hopen : lexicalErrors t = [] ∨ r.config.projectName = "" ∨ r.config.documentName = "") :
    (r.gated true).run next check t limit = (r.gated false).run next check t limit := by
  by_cases hproject : r.config.projectName = ""
  · have hset (on : Bool) := setUp_of_projectName_eq (r := r.gated on) hproject next t
    rw [run, run, runInside, runInside, hset, hset]
  by_cases hdocument : r.config.documentName = ""
  · have hset := setUp_of_documentName_eq hproject hdocument next t
    have hset (on : Bool) : (r.gated on).setUp next t
        = (.error .emptyDocumentName, r.withProject next, next + 1) := hset
    rw [run, run, runInside, runInside, hset, hset]
  have hnone : lexicalErrors t = [] := by
    simpa only [hproject, hdocument, or_false] using hopen
  have hset := setUp_of_named hproject hdocument next t
  have hset (on : Bool) : (r.gated on).setUp next t
      = (.ok ((r.gated on).project next, (r.gated on).document next t), r.withDocument next t,
        next + 2) := hset
  have hcompiled (on : Bool) := @compile_inProcess (r.gated on) next t h
  have hchecked := executeWithin_gated (r := r) hnone next check (limit.or r.config.timeout)
  simp only [run, runInside, hset, hcompiled, Outcome.mapFault]
  exact congrArg (fun checked : Traced Findings =>
    (⟨checked.outcome, checked.calls,
      checked.outcome.leave Workspace.dispose (r.withDocument next t),
      some (checked.outcome.leave Compilation.close (r.compilation next t)),
      next + 2⟩ : RunRecord)) hchecked

section Errors

variable (h : r.engine = .inProcess)
  (htime : ∀ l, limit.or r.config.timeout = some l → l.isUsable = true)
  (hproject : r.config.projectName ≠ "") (hdocument : r.config.documentName ≠ "")

include h htime hproject hdocument

/-- The gate refuses a document with all its errors; nothing is called. -/
theorem run_gated_shut (next : Nat) (check : Check) (hsome : lexicalErrors t ≠ []) :
    ((r.gated true).run next check t limit).calls = [] ∧
      ((r.gated true).run next check t limit).outcome = .raised (.inputErrors (lexicalErrors t)) := by
  refine run_of_refusal (r := r.gated true) h ?_
  have hproject : ¬ (r.gated true).config.projectName = "" := hproject
  have hdocument : ¬ (r.gated true).config.documentName = "" := hdocument
  have hnever : (limit.or (r.gated true).config.timeout).bind (·.fault? check.kind) = none :=
    TimeLimit.bind_fault?_eq_none_iff.mpr htime
  rw [refusal, if_neg hproject, if_neg hdocument, hnever]
  exact if_pos ⟨rfl, hsome⟩

/-- Without the gate a run makes the calls of its check, whatever errors the document has. -/
theorem run_gated_open (next : Nat) (check : Check) (t : Text) :
    ((r.gated false).run next check t limit).calls
        = (r.followed check (r.compilation next t)).calls ∧
      ((r.gated false).run next check t limit).outcome
        = (r.followed check (r.compilation next t)).outcome.awaited (limit.or r.config.timeout)
            check.kind := by
  have haccepted : checkInput (r.gated false).config ((r.gated false).compilation next t)
      = .done () := rfl
  exact run_of_starts (r := r.gated false)
    ⟨hproject, hdocument, compile_inProcess h, htime, haccepted⟩ check

end Errors

/-- **The gate only ever adds its own fault.** If a document has no errors, or a run has no name for
its project or document and does not get to it, then it does not matter whether the gate is shut. If
it has errors, a run behind the gate comes to all of them, in the order of their places, and calls
nothing, whatever its components would have done; in front of it the run is what following the calls
of its check comes to. -/
theorem run_gated (h : r.engine = .inProcess)
    (htime : ∀ l, limit.or r.config.timeout = some l → l.isUsable = true) (next : Nat)
    (check : Check) (t : Text) :
    let shut := (r.gated true).run next check t limit
    let free := (r.gated false).run next check t limit
    (lexicalErrors t = [] ∨ r.config.projectName = "" ∨ r.config.documentName = "" →
      shut = free) ∧
    (lexicalErrors t ≠ [] → r.config.projectName ≠ "" → r.config.documentName ≠ "" →
      shut.outcome = .raised (.inputErrors (lexicalErrors t)) ∧ shut.calls = [] ∧
        free.outcome = (r.followed check (r.compilation next t)).outcome.awaited
          (limit.or r.config.timeout) check.kind ∧
        free.calls = (r.followed check (r.compilation next t)).calls) ∧
    (∀ d ∈ lexicalErrors t, d.isError = true) ∧
    (lexicalErrors t).Pairwise fun a b => a.span.start < b.span.start := by
  intro shut free
  refine ⟨run_gated_eq h, fun hsome hproject hdocument => ?_,
    fun d hd => isError_of_mem_lexicalErrors hd, Lexeme.pairwise_errors t⟩
  obtain ⟨hnothing, hrefused⟩ := run_gated_shut h htime hproject hdocument next check hsome
  obtain ⟨hcalls, houtcome⟩ := run_gated_open h htime hproject hdocument next check t
  exact ⟨hrefused, hnothing, houtcome, hcalls⟩

/-- A stray character and a text that is left open; the analyzer would raise a fault. -/
theorem run_gated_two_errors :
    let r : Runner := ⟨.inProcess, .standard⟩
    let fault : Fault := .foreign "RuntimeError" "boom"
    let check : Check := .diagnostics [Script.analyzer "A" .plain [] [.ends (.raised fault)]]
    let errors : List Diagnostic :=
      [⟨"AL0000", ⟨0, 1⟩, "Unexpected character: '?'", .error⟩,
        ⟨"AL0000", ⟨1, 2⟩, "Unterminated string literal", .error⟩]
    lexicalErrors ['?', '\'', 'a'] = errors ∧
      (∀ l, r.config.timeout = some l → l.isUsable = true) ∧
      ((r.gated true).run 0 check ['?', '\'', 'a'] none).outcome = .raised (.inputErrors errors) ∧
      ((r.gated true).run 0 check ['?', '\'', 'a'] none).calls = [] ∧
      ((r.gated false).run 0 check ['?', '\'', 'a'] none).outcome
        = .raised (.component "A" fault) := by
  intro r fault check errors
  have herrors : lexicalErrors ['?', '\'', 'a'] = errors := by decide +kernel
  have htime : ∀ l, r.config.timeout = some l → l.isUsable = true := by
    intro l hl
    cases hl
    rfl
  obtain ⟨-, hgate, -⟩ := @run_gated r none rfl htime 0 check ['?', '\'', 'a']
  obtain ⟨hrefused, hnothing, houtcome, -⟩ := hgate (by rw [herrors]; exact List.cons_ne_nil _ _)
    (by decide) (by decide)
  rw [herrors] at hrefused
  exact ⟨herrors, htime, hrefused, hnothing, houtcome⟩

/-- Without a name for its project a run on a document with errors is refused for that, and not for
the errors. -/
theorem run_gated_unnamed :
    let r : Runner := ⟨.inProcess, { Config.standard with projectName := "" }⟩
    lexicalErrors ['?'] ≠ [] ∧ (∀ l, r.config.timeout = some l → l.isUsable = true) ∧
      ((r.gated true).run 0 (.diagnostics []) ['?'] none).outcome
        = .raised (.workspace .emptyProjectName) ∧
      ∀ errors, ((r.gated true).run 0 (.diagnostics []) ['?'] none).outcome
        ≠ .raised (.inputErrors errors) := by
  intro r
  obtain ⟨-, hrefused⟩ : ((r.gated true).run 0 (.diagnostics []) ['?'] none).calls = [] ∧
      ((r.gated true).run 0 (.diagnostics []) ['?'] none).outcome
        = .raised (.workspace .emptyProjectName) := run_of_refusal rfl rfl
  refine ⟨by decide +kernel, fun l hl => ?_, hrefused, fun errors => ?_⟩
  · cases hl
    rfl
  · rw [hrefused]
    nofun

end Assay.Runner
