import Assay.Proofs.Workspaces.Contents
import Mathlib.Data.List.Count

/-!
# Sessions

A session is what happens to several workspaces that share a counter: commands are performed on one
or another of them, in any order. It keeps the history of what was performed, with the answers and
the ids that were issued.

An id is issued where it is stored for the first time. So the ids that a command issues are those
that are stored after it, less those that were stored before it, each as often as it is stored.
-/

namespace Assay

namespace Workspace

/-- The ids of all that the workspaces of a group store. -/
def Group.ids (g : Group) : List Nat := g.workspaces.flatMap Workspace.ids

/-- New workspaces, with the first id that is free. -/
def Group.fresh (kinds : List String) (first : Nat) : Group := ⟨kinds.map Workspace.fresh, first⟩

/-- A command that was performed on the workspace with an index. -/
structure Event where
  index : Nat
  command : Command
  answer : Except Error Answer
  /-- The ids under which the command has stored something new. -/
  issued : List Nat

/-- The ids of what an answer says was added. -/
def Event.answered (e : Event) : List Nat :=
  match e.command, e.answer with
  | .addProject _, .ok (.project p) => [p.id]
  | .addProjects _, .ok (.projects ps) => ps.map Project.id
  | .addDocument _ _ _, .ok (.document d) => [d.id]
  | _, _ => []

/-- Workspaces that share a counter, and what has happened to them. -/
structure Session where
  group : Group
  history : List Event

namespace Session

/-- Nothing has happened to new workspaces. -/
def start (kinds : List String) (first : Nat) : Session := ⟨Group.fresh kinds first, []⟩

/-- The session after a command on the workspace with an index, if there is one. -/
def perform (s : Session) (index : Nat) (command : Command) : Session :=
  match s.group.perform index command with
  | none => s
  | some (answer, g) => ⟨g, s.history ++ [⟨index, command, answer, g.ids.diff s.group.ids⟩]⟩

/-- The session after commands, each on the workspace with its index. -/
def run (s : Session) (commands : List (Nat × Command)) : Session :=
  commands.foldl (fun s entry => s.perform entry.1 entry.2) s

/-- All ids that were issued. -/
def issued (s : Session) : List Nat := s.history.flatMap Event.issued

variable {s : Session} {index : Nat} {command : Command} {w w' : Workspace}

/-- What holds at the start and is kept by every command holds after all of them. -/
theorem run_induction {motive : Session → Prop} (start : motive s)
    (step : ∀ s index command, motive s → motive (s.perform index command))
    (commands : List (Nat × Command)) : motive (s.run commands) := by
  induction commands generalizing s with
  | nil => exact start
  | cons entry commands ih => exact ih (step s entry.1 entry.2 start)

/-- A command has its effect on one workspace, and leaves the other ones as they are. -/
theorem perform_of_some (command : Command) (h : s.group.workspaces[index]? = some w) :
    ∃ answer w' next', Effect w s.group.next command answer w' next' ∧
      s.group.perform index command
        = some (answer, ⟨s.group.workspaces.set index w', next'⟩) := by
  refine ⟨_, _, _, effect_perform w s.group.next command, ?_⟩
  rw [Group.perform, h]
  rfl

theorem perform_of_none (h : s.group.workspaces[index]? = none) :
    s.group.perform index command = none := by
  rw [Group.perform, h]
  rfl

/-- A session goes on by an effect on one of the workspaces, or not at all. -/
theorem perform_cases (s : Session) (index : Nat) (command : Command) :
    s.perform index command = s ∨ ∃ w answer w' next' issued,
      s.group.workspaces[index]? = some w ∧ Effect w s.group.next command answer w' next' ∧
        issued = (⟨s.group.workspaces.set index w', next'⟩ : Group).ids.diff s.group.ids ∧
        s.perform index command = ⟨⟨s.group.workspaces.set index w', next'⟩,
          s.history ++ [⟨index, command, answer, issued⟩]⟩ := by
  cases h : s.group.workspaces[index]? with
  | none => exact Or.inl (by rw [perform, perform_of_none h])
  | some w =>
    obtain ⟨answer, w', next', heffect, hperform⟩ := perform_of_some command h
    exact Or.inr ⟨w, answer, w', next', _, rfl, heffect, rfl, by rw [perform, hperform]⟩

end Session

/-! ## The ids of a group -/

variable {g : Group} {index : Nat} {w : Workspace}

/-- The ids of a group are those of one workspace and of the other ones. -/
theorem Group.exists_ids_perm (h : g.workspaces[index]? = some w) :
    ∃ others, g.ids.Perm (w.ids ++ others) ∧ ∀ w' next',
      (⟨g.workspaces.set index w', next'⟩ : Group).ids.Perm (w'.ids ++ others) := by
  obtain ⟨hlt, rfl⟩ := List.getElem?_eq_some_iff.mp h
  have hset (v : Workspace) : ((g.workspaces.set index v).flatMap Workspace.ids).Perm (v.ids ++
      ((g.workspaces.take index).flatMap Workspace.ids
        ++ (g.workspaces.drop (index + 1)).flatMap Workspace.ids)) := by
    rw [List.set_eq_take_append_cons_drop, if_pos hlt, List.flatMap_append, List.flatMap_cons]
    exact List.perm_append_comm_assoc _ _ _
  refine ⟨_, ?_, fun w' next' => hset w'⟩
  have hsame := hset g.workspaces[index]
  rwa [List.set_getElem_self] at hsame

/-- What was added to a list is what it has more. -/
theorem diff_perm_of_perm_append {l l' added : List Nat} (h : l'.Perm (l ++ added)) :
    (l'.diff l).Perm added := by
  refine List.perm_iff_count.mpr fun a => ?_
  rw [List.count_diff, h.count_eq, List.count_append, Nat.add_sub_cancel_left]

/-- A part of a list has nothing more. -/
theorem diff_eq_nil_of_perm_append {l l' missing : List Nat} (h : l.Perm (missing ++ l')) :
    l'.diff l = [] := by
  refine List.Perm.eq_nil (List.perm_iff_count.mpr fun a => ?_)
  rw [List.count_diff, h.count_eq, List.count_append, List.count_nil]
  omega

end Workspace

end Assay
