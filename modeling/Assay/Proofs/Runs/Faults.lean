import Assay.Proofs.Runs.Start
import Assay.Script

/-!
# The first fault of a run

Of all calls that a run would make, the first that fails decides what comes of it. The calls behind
it are not made, and its fault reaches whoever has asked for the run as it left the component.
-/

namespace Assay.Runner

variable {r : Runner} {next : Nat} {t : Text} {limit : Option TimeLimit} {c : Compilation}

/-- Without a failure a run comes to the findings of the check. -/
theorem run_of_succeeds (h : r.Starts next t limit c) {check : Check}
    (hall : ∀ call ∈ check.calls c r.config.compilerOptions, call.Succeeds) :
    (r.run next check t limit).calls = check.calls c r.config.compilerOptions ∧
      (r.run next check t limit).outcome
        = .done (check.findings c r.config.compilerOptions) := by
  obtain ⟨hcalls, houtcome⟩ := run_of_starts h check
  rw [hcalls, houtcome, followed, Traced.follow_of_succeeds hall]
  refine ⟨rfl, ?_⟩
  cases limit.or r.config.timeout <;> rfl

section FirstFailure

variable {check : Check} {before after : List Call} {call : Call}

/-- A run stops behind the first call that raises a fault, with that fault. -/
theorem run_of_raised (h : r.Starts next t limit c)
    (hsplit : check.calls c r.config.compilerOptions = before ++ call :: after)
    (hbefore : ∀ b ∈ before, b.Succeeds) {f : Fault} (hanswer : call.answer = .raised f) :
    (r.run next check t limit).calls = before ++ [call] ∧
      (r.run next check t limit).outcome = .raised f := by
  obtain ⟨hcalls, houtcome⟩ := run_of_starts h check
  rw [hcalls, houtcome, followed, hsplit, Traced.follow_of_raised hbefore hanswer]
  refine ⟨rfl, ?_⟩
  cases limit.or r.config.timeout <;> rfl

/-- It waits behind the first call that gets no answer, until the limit passes. -/
theorem run_of_stalled (h : r.Starts next t limit c)
    (hsplit : check.calls c r.config.compilerOptions = before ++ call :: after)
    (hbefore : ∀ b ∈ before, b.Succeeds) (hanswer : call.answer = .stalled) :
    (r.run next check t limit).calls = before ++ [call] ∧
      (r.run next check t limit).outcome
        = Outcome.stalled.awaited (limit.or r.config.timeout) check.kind := by
  obtain ⟨hcalls, houtcome⟩ := run_of_starts h check
  rw [hcalls, houtcome, followed, hsplit, Traced.follow_of_stalled hbefore hanswer]
  exact ⟨rfl, rfl⟩

/-- Either way it stops behind the first call that fails, and comes to nothing. -/
theorem run_of_not_succeeds (h : r.Starts next t limit c)
    (hsplit : check.calls c r.config.compilerOptions = before ++ call :: after)
    (hbefore : ∀ b ∈ before, b.Succeeds) (hcall : ¬ call.Succeeds) :
    (r.run next check t limit).calls = before ++ [call] ∧
      ∀ found, (r.run next check t limit).outcome ≠ .done found := by
  cases hanswer : call.answer with
  | done u => exact absurd (Call.answer_eq_done_iff.mp hanswer) hcall
  | raised f =>
    obtain ⟨hcalls, houtcome⟩ := run_of_raised h hsplit hbefore hanswer
    refine ⟨hcalls, fun found => ?_⟩
    rw [houtcome]
    nofun
  | stalled =>
    obtain ⟨hcalls, houtcome⟩ := run_of_stalled h hsplit hbefore hanswer
    refine ⟨hcalls, fun found => ?_⟩
    rw [houtcome]
    cases limit.or r.config.timeout <;> nofun

end FirstFailure

/-- **The first fault of a run is what it comes to.** A run that gets to its check makes the calls
of the check in their order. If all of them succeed, it comes to the findings. If not, the call
behind which it stops is the first one that fails, and the fault is that call's: a fault of the
bench's own as it is, an ordinary fault pinned on the component, a cancellation of a coroutine as it
is, and of a component that returns the first id that it does not declare. -/
theorem run_stops_at_first_failure (h : r.Starts next t limit c) (check : Check) :
    let calls := check.calls c r.config.compilerOptions
    let record := r.run next check t limit
    ((∀ call ∈ calls, call.Succeeds) →
      record.calls = calls ∧
        record.outcome = .done (check.findings c r.config.compilerOptions)) ∧
    ∀ before call after, calls = before ++ call :: after → (∀ b ∈ before, b.Succeeds) →
      ¬ call.Succeeds →
      record.calls = before ++ [call] ∧
        (∀ found, record.outcome ≠ .done found) ∧
        (∀ f, call.ending = .raised f → f.isOwn = true → record.outcome = .raised f) ∧
        (∀ f, call.ending = .raised f → f.isOwn = false → f.endsThread = false →
          record.outcome = .raised (.component call.component f)) ∧
        (∀ f, call.ending = .raised f → f.isAbrupt = true → call.mode ≠ .plain →
          record.outcome = .raised f) ∧
        (call.ending = .returned → ∃ id, call.ReportsUndeclared id ∧
          record.outcome = .raised (.undeclared call.component id)) := by
  refine ⟨run_of_succeeds h, fun before call after hsplit hbefore hcall => ?_⟩
  obtain ⟨hcalls, hnothing⟩ := run_of_not_succeeds h hsplit hbefore hcall
  refine ⟨hcalls, hnothing, fun f hf hown => ?_, fun f hf hown hends => ?_,
    fun f hf habrupt hmode => ?_, fun hreturned => ?_⟩
  · have hanswer := Call.answer_of_raised hf (Fault.endsThread_of_isOwn hown)
    rw [Fault.pinOn_of_isOwn hown] at hanswer
    exact (run_of_raised h hsplit hbefore hanswer).2
  · have hanswer := Call.answer_of_raised hf hends
    rw [Fault.pinOn_of_ordinary (Bool.or_eq_false_iff.mp hends).1 hown] at hanswer
    exact (run_of_raised h hsplit hbefore hanswer).2
  · have hanswer := Call.answer_of_raised_of_ne_plain hf hmode
    rw [Fault.leaveCoroutine_of_isAbrupt habrupt, Fault.pinOn_of_isAbrupt habrupt] at hanswer
    exact (run_of_raised h hsplit hbefore hanswer).2
  · have hanswer := Call.answer_of_returned hreturned
    rcases call.review_eq_done_or with ⟨-, hnone⟩ | ⟨id, hid⟩
    · exact absurd ⟨hreturned, hnone⟩ hcall
    · rw [Call.review_of_reportsUndeclared hid] at hanswer
      exact ⟨id, hid, (run_of_raised h hsplit hbefore hanswer).2⟩

/-- The second of three analyzers raises a fault; the third one, which would end the run with
another fault, is not called. -/
theorem run_stops_at_first_failure_second :
    let r : Runner := ⟨.inProcess, .standard⟩
    let check : Check := .diagnostics
      [Script.analyzer "A" .plain [⟨"X", "", "", .warning⟩] [.report "X" "" 0 1 none],
        Script.analyzer "B" .coroutine [] [.ends (.raised (.foreign "RuntimeError" "boom"))],
        Script.analyzer "C" .plain [] [.ends (.raised (.own .harness "late"))]]
    r.Starts 0 ['x'] none (r.compilation 0 ['x']) ∧
      (r.run 0 check ['x'] none).calls.map Call.component = ["A", "B"] ∧
      (r.run 0 check ['x'] none).outcome
        = .raised (.component "B" (.foreign "RuntimeError" "boom")) := by
  intro r check
  have hstarts : r.Starts 0 ['x'] none (r.compilation 0 ['x']) :=
    starts_of_refusal_eq_none rfl 0 check.kind (by decide +kernel)
  obtain ⟨hcalls, -, -, hordinary, -⟩ := (run_stops_at_first_failure hstarts check).2 [_] _ [_] rfl
    (List.forall_mem_singleton.mpr (Call.answer_eq_done_iff.mp rfl))
    (fun hsucceeds => by cases hsucceeds.1)
  exact ⟨hstarts, congrArg (List.map Call.component) hcalls, hordinary _ rfl rfl rfl⟩

end Assay.Runner
