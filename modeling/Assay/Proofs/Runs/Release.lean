import Assay.Proofs.Runs.Start
import Assay.Script

/-!
# What a run leaves behind

A run acquires what it needs in four steps: a workspace, a project in it, a document in the project,
and a compilation of the document. Names may be missing and the engine may raise a fault, so it may not
get further than any of them. `Runner.Acquires` says how far it has got.

However far that is, and whatever the check then comes to, a run that ends leaves nothing behind. The
workspace is disposed of with all that is in it, and the compilation is closed, if there is one
(`Runner.run_releases`). A run that never ends holds what it has acquired.
-/

namespace Assay

/-- A workspace that is disposed of, with nothing left in it. -/
structure Workspace.Released (w : Workspace) : Prop where
  disposed : w.disposed = true
  projects : w.projects = []
  documents : w.documents = []
  opened : w.opened = []

/-- Disposing of a workspace that is in use leaves nothing in it. -/
theorem Workspace.released_dispose {w : Workspace} (hlive : w.disposed = false) :
    w.dispose.Released := by
  have hdispose : w.dispose = { w with projects := [], opened := [], disposed := true } := by
    unfold dispose
    rw [hlive]
    rfl
  rw [hdispose]
  exact ⟨rfl, rfl, rfl, rfl⟩

namespace Runner

variable {r : Runner} {next : Nat} {t : Text} {check : Check} {limit : Option TimeLimit}

/-- What a run has acquired once it gets no further: its workspace, and the compilation if there is
one. -/
inductive Acquires (r : Runner) (next : Nat) (t : Text) : Workspace → Option Compilation → Prop
  | workspace (hproject : r.config.projectName = "") :
      Acquires r next t (.fresh Workspace.standardKind) none
  | project (hproject : r.config.projectName ≠ "") (hdocument : r.config.documentName = "") :
      Acquires r next t (r.withProject next) none
  | document (hproject : r.config.projectName ≠ "") (hdocument : r.config.documentName ≠ "")
      {f : Fault} (hcompile : r.engine.compile (r.document next t) (r.project next)
        r.config.compilerOptions = .raised f) : Acquires r next t (r.withDocument next t) none
  | compilation (hproject : r.config.projectName ≠ "") (hdocument : r.config.documentName ≠ "")
      {c : Compilation} (hcompile : r.engine.compile (r.document next t) (r.project next)
        r.config.compilerOptions = .done c) : Acquires r next t (r.withDocument next t) (some c)

/-- A run gets as far as to have a compilation. -/
def Compiles (r : Runner) (next : Nat) (t : Text) : Prop :=
  r.config.projectName ≠ "" ∧ r.config.documentName ≠ "" ∧
    ∃ c, r.engine.compile (r.document next t) (r.project next) r.config.compilerOptions = .done c

namespace Acquires

variable {w : Workspace} {made : Option Compilation}

theorem live (h : r.Acquires next t w made) : w.disposed = false := by
  cases h <;> rfl

theorem exists_eq_some_iff (h : r.Acquires next t w made) :
    (∃ c, made = some c) ↔ r.Compiles next t := by
  cases h with
  | workspace hproject => exact iff_of_false nofun fun hcompiles => hcompiles.1 hproject
  | project _ hdocument => exact iff_of_false nofun fun hcompiles => hcompiles.2.1 hdocument
  | document _ _ hcompile =>
    refine iff_of_false nofun ?_
    rintro ⟨-, -, c, hc⟩
    rw [hcompile] at hc
    cases hc
  | compilation hproject hdocument hcompile =>
    exact iff_of_true ⟨_, rfl⟩ ⟨hproject, hdocument, _, hcompile⟩

end Acquires

/-- A run that ends has acquired something, and has the workspace still in its hands when it gets out
of all that is done inside; the compilation is closed by then. -/
theorem exists_acquires (hends : (r.runInside next check t limit).outcome ≠ .stalled) :
    ∃ made, r.Acquires next t (r.runInside next check t limit).workspace made ∧
      (r.runInside next check t limit).compilation = made.map Compilation.close := by
  by_cases hproject : r.config.projectName = ""
  · refine ⟨none, ?_⟩
    rw [runInside, setUp_of_projectName_eq hproject]
    exact ⟨.workspace hproject, rfl⟩
  by_cases hdocument : r.config.documentName = ""
  · refine ⟨none, ?_⟩
    rw [runInside, setUp_of_documentName_eq hproject hdocument]
    exact ⟨.project hproject hdocument, rfl⟩
  have hset := setUp_of_named hproject hdocument next t
  simp only [runInside, hset] at hends ⊢
  cases hcompile : r.engine.compile (r.document next t) (r.project next) r.config.compilerOptions with
  | done c =>
    rw [hcompile] at hends
    refine ⟨some c, .compilation hproject hdocument hcompile, ?_⟩
    exact congrArg some (Outcome.leave_of_ends hends Compilation.close c)
  | raised f => exact ⟨none, .document hproject hdocument hcompile, rfl⟩
  | stalled =>
    -- an engine that does not come to an end keeps the run from ending
    rw [hcompile] at hends
    exact absurd rfl hends

/-- **A run that ends gives back all that it has acquired**, on whatever way it ends. Its workspace is
disposed of, without a project, a document or an open id left in it. There is a compilation exactly if
the run has got so far, and it is closed. -/
theorem run_releases (hends : (r.run next check t limit).outcome ≠ .stalled) :
    (r.run next check t limit).workspace.Released ∧
      ((∃ c, (r.run next check t limit).compilation = some c) ↔ r.Compiles next t) ∧
      (∀ c, (r.run next check t limit).compilation = some c → c.closed = true) ∧
      ∃ w made, r.Acquires next t w made ∧ (r.run next check t limit).workspace = w.dispose ∧
        (r.run next check t limit).compilation = made.map Compilation.close := by
  obtain ⟨made, hacquires, hclosed⟩ := exists_acquires hends
  have hworkspace : (r.run next check t limit).workspace
      = (r.runInside next check t (limit.or r.config.timeout)).workspace.dispose :=
    Outcome.leave_of_ends hends Workspace.dispose _
  have hcompilation : (r.run next check t limit).compilation = made.map Compilation.close := hclosed
  refine ⟨?_, ?_, ?_, _, made, hacquires, hworkspace, hcompilation⟩
  · rw [hworkspace]
    exact Workspace.released_dispose hacquires.live
  · rw [← hacquires.exists_eq_some_iff, hcompilation]
    cases made <;> simp
  · intro c hc
    rw [hcompilation, Option.map_eq_some_iff] at hc
    obtain ⟨opened, -, rfl⟩ := hc
    exact opened.close_closed

/-- The limit passes while a callback goes on without an end; and an engine that refuses the document
leaves a run without a compilation. -/
theorem run_releases_expired_and_refused :
    let a : Analyzer := Script.analyzer "A" .plain [] [.ends .endless]
    let r : Runner := ⟨.inProcess, { Config.standard with failOnInputErrors := false }⟩
    let broken : Runner := ⟨⟨"broken", fun _ _ _ => .raised (.foreign "OSError" "gone")⟩, .standard⟩
    let expired := r.run 0 (.diagnostics [a]) ['x'] (some (.whole 1))
    let refused := broken.run 0 (.diagnostics [a]) ['x'] (some (.whole 1))
    expired.outcome = .raised (.timedOut (.whole 1) .diagnostics) ∧
      expired.workspace.Released ∧ (∃ c, expired.compilation = some c ∧ c.closed = true) ∧
      refused.outcome = .raised (.component "broken" (.foreign "OSError" "gone")) ∧
      refused.workspace.Released ∧ refused.compilation = none := by
  intro a r broken expired refused
  have hexpired : expired.outcome = .raised (.timedOut (.whole 1) .diagnostics) := rfl
  have hrefused : refused.outcome = .raised (.component "broken" (.foreign "OSError" "gone")) := rfl
  obtain ⟨hreleased, hcompiled, hclosed, -⟩ :=
    @run_releases r 0 ['x'] (.diagnostics [a]) (some (.whole 1)) (by rw [hexpired]; nofun)
  obtain ⟨hreleased', hcompiled', -⟩ :=
    @run_releases broken 0 ['x'] (.diagnostics [a]) (some (.whole 1)) (by rw [hrefused]; nofun)
  refine ⟨hexpired, hreleased, ?_, hrefused, hreleased', ?_⟩
  · obtain ⟨c, hc⟩ := hcompiled.mpr ⟨by decide, by decide, _, rfl⟩
    exact ⟨c, hc, hclosed c hc⟩
  · rw [Option.eq_none_iff_forall_ne_some]
    intro c hc
    obtain ⟨-, -, c', hcompile⟩ := hcompiled'.mp ⟨c, hc⟩
    cases hcompile

end Runner

end Assay
