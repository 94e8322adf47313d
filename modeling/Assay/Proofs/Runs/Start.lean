import Assay.Proofs.Lexing.Place
import Assay.Proofs.Runs.Answers

/-!
# Getting to the check

A run sets up a workspace, compiles the document, and looks at its errors. Each of these may refuse
the run before any callback is called (`Runner.refusal`). A run that is not refused gets to its
check (`Runner.Starts`), and from then on it is made of calls (`Runner.run_of_starts`).
-/

namespace Assay

theorem isError_of_mem_lexicalErrors {t : Text} {d : Diagnostic} (h : d ∈ lexicalErrors t) :
    d.isError = true := by
  obtain ⟨before, l, after, -, hd⟩ := Lexeme.mem_place_zero_iff.mp h
  cases l with
  | blank c => cases hd
  | stray c => cases List.mem_singleton.mp hd; rfl
  | token kind text flaw =>
    cases flaw with
    | none => cases hd
    | some flaw => cases List.mem_singleton.mp hd; rfl

namespace Workspace

theorem addProject_fresh (kind : String) (info : ProjectInfo) (next : Nat) (h : info.name ≠ "") :
    (fresh kind).addProject next info
      = .ok (⟨next, info.name, info.language, info.references, []⟩,
          ⟨kind, [⟨next, info.name, info.language, info.references, []⟩], [], false⟩, next + 1) := by
  simp only [addProject, alive, fresh, Bool.false_eq_true, bind, Except.bind, h, if_false]
  rfl

theorem addDocument_of_single (kind : String) (p : Project) (next : Nat) (t : Text)
    {name : String} (h : name ≠ "") :
    (⟨kind, [p], [], false⟩ : Workspace).addDocument next p.id name (some t)
      = .ok (⟨next, p.id, name, some t⟩,
          ⟨kind, [{ p with documents := p.documents ++ [⟨next, p.id, name, some t⟩] }], [], false⟩,
          next + 1) := by
  have hfound : (⟨kind, [p], [], false⟩ : Workspace).getProject p.id = .ok p := by
    have hfind : [p].find? (fun q => (q.id : Int) = p.id) = some p :=
      List.find?_cons_of_pos (decide_eq_true rfl)
    simp only [getProject, alive, Bool.false_eq_true, if_false, bind, Except.bind, hfind]
    rfl
  rw [addDocument, if_neg h, hfound]
  show Except.ok (_, (⟨kind, [p], [], false⟩ : Workspace).mapDocuments p.id _, _) = _
  simp only [mapDocuments, List.map_cons, List.map_nil, if_true]

end Workspace

/-- The outcome of a run that is waited for, until a limit passes if there is one. -/
def Outcome.awaited {α : Type} (o : Outcome α) (limit : Option TimeLimit) (kind : RunKind) :
    Outcome α :=
  match limit with
  | none => o
  | some l => o.within l kind

namespace TimeLimit

theorem fault?_eq_none_iff {l : TimeLimit} {kind : RunKind} :
    l.fault? kind = none ↔ l.isUsable = true := by
  unfold fault? isUsable
  cases l.isOver <;> cases l.isTooGreat <;> simp

theorem bind_fault?_eq_none_iff {limit : Option TimeLimit} {kind : RunKind} :
    limit.bind (·.fault? kind) = none ↔ ∀ l, limit = some l → l.isUsable = true := by
  simp only [Option.bind_eq_none_iff, fault?_eq_none_iff]

end TimeLimit

namespace Runner

variable {r : Runner} {next : Nat} {t : Text} {limit : Option TimeLimit} {c : Compilation}

/-- The project that a run is about. -/
def project (r : Runner) (next : Nat) : Project :=
  ⟨next, r.config.projectName, r.config.language, r.config.references, []⟩

/-- The document that a run is about. -/
def document (r : Runner) (next : Nat) (t : Text) : Document :=
  ⟨next + 1, next, r.config.documentName, some t⟩

/-- The workspace of a run, with the project in it. -/
def withProject (r : Runner) (next : Nat) : Workspace :=
  ⟨Workspace.standardKind, [r.project next], [], false⟩

/-- The workspace of a run, with the document in the project. -/
def withDocument (r : Runner) (next : Nat) (t : Text) : Workspace :=
  ⟨Workspace.standardKind, [{ r.project next with documents := [r.document next t] }], [], false⟩

/-- The check of a run on a text is carried out, on a compilation: project and document have names,
the engine compiles the document, the limit can be waited for, and the document is accepted. -/
structure Starts (r : Runner) (next : Nat) (t : Text) (limit : Option TimeLimit)
    (c : Compilation) : Prop where
  projectNamed : r.config.projectName ≠ ""
  documentNamed : r.config.documentName ≠ ""
  compiled : r.engine.compile (r.document next t) (r.project next) r.config.compilerOptions = .done c
  inTime : ∀ l, limit.or r.config.timeout = some l → l.isUsable = true
  accepted : checkInput r.config c = .done ()

/-- What making the calls of a check one after the other comes to. -/
def followed (r : Runner) (check : Check) (c : Compilation) : Traced Findings :=
  .follow (check.calls c r.config.compilerOptions) (check.findings c r.config.compilerOptions)

theorem addProject_of_named (h : r.config.projectName ≠ "") (next : Nat) :
    (Workspace.fresh Workspace.standardKind).addProject next r.projectInfo
      = .ok (r.project next, r.withProject next, next + 1) :=
  Workspace.addProject_fresh _ _ _ h

theorem setUp_of_named (hproject : r.config.projectName ≠ "")
    (hdocument : r.config.documentName ≠ "") (next : Nat) (t : Text) :
    r.setUp next t = (.ok (r.project next, r.document next t), r.withDocument next t, next + 2) := by
  have hfilled := Workspace.addDocument_of_single Workspace.standardKind (r.project next)
    (next + 1) t hdocument
  simp only [setUp, addProject_of_named hproject, withProject, hfilled]
  rfl

/-- The compilation of the engine that cuts documents into tokens. -/
def compilation (r : Runner) (next : Nat) (t : Text) : Compilation where
  document := r.document next t
  project := r.project next
  options := r.config.compilerOptions
  tokens := tokenize t
  ownDiagnostics := .done (lexicalErrors t)
  extraDiagnostics := []
  closed := false

theorem checkInput_compilation (r : Runner) (next : Nat) (t : Text) :
    checkInput r.config (r.compilation next t)
      = if r.config.failOnInputErrors = true ∧ lexicalErrors t ≠ [] then
          .raised (.inputErrors (lexicalErrors t))
        else .done () := by
  have herrors : (lexicalErrors t).filter Diagnostic.isError = lexicalErrors t :=
    List.filter_eq_self.mpr fun d hd => isError_of_mem_lexicalErrors hd
  by_cases hflag : r.config.failOnInputErrors = true
  · by_cases hnone : lexicalErrors t = []
    · simp only [checkInput, compilation, hflag, if_true, Outcome.done_bind, hnone]
      rfl
    · simp only [checkInput, compilation, hflag, if_true, Outcome.done_bind, herrors,
        List.isEmpty_iff, hnone, if_false, ne_eq, not_false_eq_true, and_self]
  · rw [checkInput, if_neg hflag, if_neg fun h => hflag h.1]

/-- Why a run of a kind on a text does not get to its check, with the engine that cuts documents into
tokens. Names go before the limit, and the limit before the errors in the document. -/
def refusal (r : Runner) (kind : RunKind) (t : Text) (limit : Option TimeLimit) : Option Fault :=
  if r.config.projectName = "" then some (.workspace .emptyProjectName)
  else if r.config.documentName = "" then some (.workspace .emptyDocumentName)
  else match (limit.or r.config.timeout).bind (·.fault? kind) with
    | some f => some f
    | none =>
      if r.config.failOnInputErrors = true ∧ lexicalErrors t ≠ [] then
        some (.inputErrors (lexicalErrors t))
      else none

theorem compile_inProcess (h : r.engine = .inProcess) :
    r.engine.compile (r.document next t) (r.project next) r.config.compilerOptions
      = .done (r.compilation next t) := by
  rw [h]
  rfl

theorem setUp_of_projectName_eq (h : r.config.projectName = "") (next : Nat) (t : Text) :
    r.setUp next t = (.error .emptyProjectName, .fresh Workspace.standardKind, next) := by
  have hrefused : (Workspace.fresh Workspace.standardKind).addProject next r.projectInfo
      = .error .emptyProjectName := by
    simp only [Workspace.addProject, Workspace.alive, Workspace.fresh, projectInfo, h,
      Bool.false_eq_true, bind, Except.bind, if_true, if_false]
    rfl
  rw [setUp, hrefused]

theorem setUp_of_documentName_eq (hproject : r.config.projectName ≠ "")
    (h : r.config.documentName = "") (next : Nat) (t : Text) :
    r.setUp next t = (.error .emptyDocumentName, r.withProject next, next + 1) := by
  rw [setUp, addProject_of_named hproject, h]
  rfl

theorem executeWithin_of_fault? {l : TimeLimit} {check : Check} {f : Fault}
    (h : l.fault? check.kind = some f) : r.executeWithin (some l) check c = ⟨[], .raised f⟩ := by
  simp only [executeWithin, h]
  rfl

/-- A limit that can be waited for only turns a check that would never end into one that is given
up. -/
theorem executeWithin_of_inTime {limit : Option TimeLimit}
    (h : ∀ l, limit = some l → l.isUsable = true) (check : Check) :
    r.executeWithin limit check c
      = (r.execute check c).mapOutcome fun o => o.awaited limit check.kind := by
  cases limit with
  | none => rfl
  | some l =>
    simp only [executeWithin, TimeLimit.fault?_eq_none_iff.mpr (h l rfl)]
    rfl

theorem starts_of_refusal_eq_none (h : r.engine = .inProcess) (next : Nat) (kind : RunKind)
    (hnone : r.refusal kind t limit = none) : r.Starts next t limit (r.compilation next t) := by
  rw [refusal] at hnone
  by_cases hproject : r.config.projectName = ""
  · rw [if_pos hproject] at hnone
    cases hnone
  by_cases hdocument : r.config.documentName = ""
  · rw [if_neg hproject, if_pos hdocument] at hnone
    cases hnone
  rw [if_neg hproject, if_neg hdocument] at hnone
  cases hlimit : (limit.or r.config.timeout).bind (·.fault? kind) with
  | some f =>
    rw [hlimit] at hnone
    cases hnone
  | none =>
    simp only [hlimit] at hnone
    split_ifs at hnone with hbad
    refine ⟨hproject, hdocument, compile_inProcess h, TimeLimit.bind_fault?_eq_none_iff.mp hlimit, ?_⟩
    rw [checkInput_compilation, if_neg hbad]

/-- A run that is refused calls nothing. -/
theorem run_of_refusal (h : r.engine = .inProcess) {check : Check} {f : Fault}
    (hf : r.refusal check.kind t limit = some f) :
    (r.run next check t limit).calls = [] ∧ (r.run next check t limit).outcome = .raised f := by
  rw [refusal] at hf
  by_cases hproject : r.config.projectName = ""
  · rw [if_pos hproject] at hf
    cases hf
    rw [run, runInside, setUp_of_projectName_eq hproject]
    exact ⟨rfl, rfl⟩
  by_cases hdocument : r.config.documentName = ""
  · rw [if_neg hproject, if_pos hdocument] at hf
    cases hf
    have hset := setUp_of_documentName_eq hproject hdocument next t
    rw [run, runInside, hset]
    exact ⟨rfl, rfl⟩
  rw [if_neg hproject, if_neg hdocument] at hf
  have hset := setUp_of_named hproject hdocument next t
  simp only [run, runInside, hset, compile_inProcess h, Outcome.mapFault]
  cases hlimit : (limit.or r.config.timeout).bind (·.fault? check.kind) with
  | some f =>
    obtain ⟨l, hl, hfault⟩ := Option.bind_eq_some_iff.mp hlimit
    rw [hlimit] at hf
    cases hf
    rw [hl, executeWithin_of_fault? hfault]
    exact ⟨rfl, rfl⟩
  | none =>
    simp only [hlimit] at hf
    split_ifs at hf with hbad
    cases hf
    have hexecute : r.execute check (r.compilation next t)
        = ⟨[], .raised (.inputErrors (lexicalErrors t))⟩ := by
      rw [execute, checkInput_compilation, if_pos hbad]
      rfl
    rw [executeWithin_of_inTime (TimeLimit.bind_fault?_eq_none_iff.mp hlimit), hexecute]
    refine ⟨rfl, ?_⟩
    cases limit.or r.config.timeout <;> rfl

/-- **A run that gets to its check makes the calls of the check.** The limit only turns a run that
would never end into one that is given up. -/
theorem run_of_starts (h : r.Starts next t limit c) (check : Check) :
    (r.run next check t limit).calls = (r.followed check c).calls ∧
      (r.run next check t limit).outcome
        = (r.followed check c).outcome.awaited (limit.or r.config.timeout) check.kind := by
  have hset := setUp_of_named h.projectNamed h.documentNamed next t
  -- what the calls raise is pinned already, so the handler around the check changes nothing
  have hexecute : r.execute check c = r.followed check c := by
    rw [execute, h.accepted, Check.carryOut_eq_follow]
    exact Traced.mapFault_follow _ _ _
  simp only [run, runInside, hset, h.compiled, Outcome.mapFault, executeWithin_of_inTime h.inTime, hexecute,
    Traced.mapOutcome, and_self]

end Runner

end Assay
