import Assay.Proofs.Workspaces.Sessions

/-!
# Workspaces that are disposed of

Disposing of a workspace is final. No command changes it any more (`perform_of_disposed`), so it stays
as it is whatever the session goes on with (`Session.getElem?_run_of_disposed`), and a command that is
performed on it is refused for that reason (`refused_after_disposal`).

There are two kinds of commands that are not. Disposing of it once more is allowed. And a command can
be settled by its arguments before anybody looks at the workspace: that is so for a batch without
projects, and for a document without a name or a text.
-/

namespace Assay.Workspace

/-! ## Commands that are not refused for it -/

/-- A command that disposes of the workspace. -/
def Command.Releases (c : Command) : Prop := c = .dispose ∨ c = .leave

/-- A command that is settled before the workspace is looked at. -/
inductive Command.SettledByArguments : Command → Prop
  | emptyBatch : SettledByArguments (.addProjects [])
  | unnamed (projectId : Int) (text : Option Text) :
      SettledByArguments (.addDocument projectId "" text)
  | textless (projectId : Int) (name : String) :
      SettledByArguments (.addDocument projectId name none)

variable {w : Workspace} {next index : Nat} {c : Command}

/-! ## One command -/

theorem dispose_of_disposed (h : w.disposed = true) : w.dispose = w := if_pos h

theorem getProject_of_disposed (h : w.disposed = true) (id : Int) :
    w.getProject id = .error .disposed := by
  rw [getProject, alive_of_disposed h]
  rfl

theorem getDocument_of_disposed (h : w.disposed = true) (id : Int) :
    w.getDocument id = .error .disposed := by
  rw [getDocument, alive_of_disposed h]
  rfl

theorem addProject_of_disposed (h : w.disposed = true) (next : Nat) (info : ProjectInfo) :
    w.addProject next info = .error .disposed := by
  rw [addProject, alive_of_disposed h]
  rfl

theorem addDocument_of_disposed (h : w.disposed = true) (next : Nat) (projectId : Int)
    {name : String} (hname : name ≠ "") (t : Text) :
    w.addDocument next projectId name (some t) = .error .disposed := by
  rw [addDocument, if_neg hname, getProject_of_disposed h]
  rfl

/-- What uses a workspace that is disposed of is refused. -/
theorem perform_of_uses (h : w.disposed = true) (next : Nat) (hreleases : ¬ c.Releases)
    (hsettled : ¬ c.SettledByArguments) : w.perform next c = (.error .disposed, w, next) := by
  have halive := alive_of_disposed h
  cases c with
  | listProjects =>
    rw [perform, listProjects, halive]
    rfl
  | addProject info => rw [perform, addProject_of_disposed h]
  | addProjects infos =>
    cases infos with
    | nil => exact absurd .emptyBatch hsettled
    | cons info infos =>
      simp only [perform, addProjects, addProject_of_disposed h]
      rfl
  | getProject id =>
    rw [perform, getProject_of_disposed h]
    rfl
  | addDocument projectId name text =>
    cases text with
    | none => exact absurd (.textless projectId name) hsettled
    | some t =>
      have hname : name ≠ "" := by
        rintro rfl
        exact hsettled (.unnamed projectId (some t))
      rw [perform, addDocument_of_disposed h next projectId hname]
  | getDocument id =>
    rw [perform, getDocument_of_disposed h]
    rfl
  | withText id text =>
    rw [perform, withText, getDocument_of_disposed h]
    rfl
  | openDocument id =>
    rw [perform, openDocument, getDocument_of_disposed h]
    rfl
  | close id =>
    rw [perform, closeDocument, getDocument_of_disposed h]
    rfl
  | isOpen id =>
    rw [perform, isOpen, halive]
    rfl
  | clear =>
    rw [perform, clear, halive]
    rfl
  | dispose => exact absurd (Or.inl rfl) hreleases
  | enter =>
    rw [perform, halive]
    rfl
  | leave => exact absurd (Or.inr rfl) hreleases

theorem perform_of_releases (h : w.disposed = true) (next : Nat) (hc : c.Releases) :
    w.perform next c = (.ok .nothing, w, next) := by
  rcases hc with rfl | rfl <;> rw [perform, dispose_of_disposed h]

/-- What is settled by its arguments does not touch the workspace. -/
theorem perform_of_settled (w : Workspace) (next : Nat) (hc : c.SettledByArguments) :
    ∃ answer, w.perform next c = (answer, w, next) ∧ answer ≠ .error .disposed := by
  cases hc with
  | emptyBatch => exact ⟨.ok (.projects []), rfl, nofun⟩
  | unnamed projectId text => exact ⟨.error .emptyDocumentName, rfl, nofun⟩
  | textless projectId name =>
    by_cases hname : name = ""
    · subst hname
      exact ⟨.error .emptyDocumentName, rfl, nofun⟩
    · refine ⟨.error .missingText, ?_, nofun⟩
      rw [perform, addDocument, if_neg hname]
      rfl

/-- **No command changes a workspace that is disposed of**, and all that would use it are refused. -/
theorem perform_of_disposed (h : w.disposed = true) (next : Nat) (c : Command) :
    ∃ answer, w.perform next c = (answer, w, next) ∧
      (answer = .error .disposed ↔ ¬ c.Releases ∧ ¬ c.SettledByArguments) := by
  by_cases hreleases : c.Releases
  · exact ⟨_, perform_of_releases h next hreleases, by simp [hreleases]⟩
  by_cases hsettled : c.SettledByArguments
  · obtain ⟨answer, hperform, hne⟩ := perform_of_settled w next hsettled
    exact ⟨answer, hperform, by simp [hne, hsettled]⟩
  · exact ⟨_, perform_of_uses h next hreleases hsettled, by simp [hreleases, hsettled]⟩

/-! ## The rest of a session -/

theorem Group.perform_of_disposed {g : Group} (hw : g.workspaces[index]? = some w)
    (h : w.disposed = true) (c : Command) :
    ∃ answer, g.perform index c = some (answer, g) ∧
      (answer = .error .disposed ↔ ¬ c.Releases ∧ ¬ c.SettledByArguments) := by
  obtain ⟨answer, hperform, hanswer⟩ := Workspace.perform_of_disposed h g.next c
  refine ⟨answer, ?_, hanswer⟩
  obtain ⟨hlt, rfl⟩ := List.getElem?_eq_some_iff.mp hw
  rw [Group.perform, hw, Option.map_some, hperform]
  show some (answer, (⟨g.workspaces.set index g.workspaces[index], g.next⟩ : Group)) = _
  rw [List.set_getElem_self]

namespace Session

variable {s : Session}

/-- Commands on it do not change it, and commands on other workspaces do not reach it. -/
theorem getElem?_perform_of_disposed (hw : s.group.workspaces[index]? = some w)
    (h : w.disposed = true) (i : Nat) (c : Command) :
    (s.perform i c).group.workspaces[index]? = some w := by
  by_cases hi : i = index
  · subst hi
    obtain ⟨answer, hperform, -⟩ := Group.perform_of_disposed hw h c
    rw [perform, hperform]
    exact hw
  · rcases perform_cases s i c with hsame | ⟨v, answer, v', next', issued, -, -, -, hperform⟩
    · rw [hsame]
      exact hw
    · rw [hperform]
      show (s.group.workspaces.set i v')[index]? = some w
      rw [List.getElem?_set_ne hi, hw]

theorem getElem?_run_of_disposed (hw : s.group.workspaces[index]? = some w)
    (h : w.disposed = true) (commands : List (Nat × Command)) :
    (s.run commands).group.workspaces[index]? = some w :=
  run_induction (motive := fun s => s.group.workspaces[index]? = some w) hw
    (fun _ i c hw => getElem?_perform_of_disposed hw h i c) commands

end Session

/-- **A workspace that is disposed of cannot be used any more.** However the session goes on, a
command on it changes nothing at all, and it is refused because the workspace is disposed of, unless
it disposes of it once more or is settled by its arguments alone. -/
theorem refused_after_disposal {s : Session} (hw : s.group.workspaces[index]? = some w)
    (h : w.disposed = true) (commands : List (Nat × Command)) (c : Command) :
    ∃ answer, (s.run commands).group.perform index c = some (answer, (s.run commands).group) ∧
      (answer = .error .disposed ↔ ¬ c.Releases ∧ ¬ c.SettledByArguments) :=
  Group.perform_of_disposed (Session.getElem?_run_of_disposed hw h commands) h c

/-- A session that disposes of a workspace with a project. -/
def discarded : Session :=
  (Session.start [standardKind] 1).run
    [(0, .addProject ⟨"Base", standardLanguage, []⟩), (0, .dispose)]

theorem refused_after_disposal_open :
    ∃ w, discarded.group.workspaces[0]? = some w ∧ w.disposed = true ∧
      (discarded.run [(0, .leave)]).group.perform 0 (.openDocument 2)
        = some (.error .disposed, (discarded.run [(0, .leave)]).group) := by
  refine ⟨_, rfl, rfl, ?_⟩
  obtain ⟨answer, hperform, hanswer⟩ :=
    @refused_after_disposal _ 0 discarded rfl rfl [(0, .leave)] (.openDocument 2)
  have hkeeps : ¬ (Command.openDocument 2).Releases := by rintro (h | h) <;> cases h
  rw [hperform, hanswer.mpr ⟨hkeeps, nofun⟩]

/-- A batch without projects is not refused, and a document without a name is refused for another
reason. -/
theorem settled_after_disposal :
    ∃ w, discarded.group.workspaces[0]? = some w ∧ w.disposed = true ∧
      discarded.group.perform 0 (.addProjects [])
        = some (.ok (.projects []), discarded.group) ∧
      discarded.group.perform 0 (.addDocument 1 "" (some ['a']))
        = some (.error .emptyDocumentName, discarded.group) :=
  ⟨_, rfl, rfl, rfl, rfl⟩

end Assay.Workspace
