import Assay.Proofs.Workspaces.Consistency
import Mathlib.Data.List.TakeWhile

/-!
# Several projects at once

A batch of projects is added one by one, and nothing is taken back. So a batch either comes in as a
whole, or it is refused at its first project without a name, and then the projects in front of that
one stay (`added_in_front_of_unnamed`). What comes in is new in any case: its ids were never issued
before.

Only a batch whose first project has no name is refused without a trace; `half_added` is one that
leaves something behind.
-/

namespace Assay

/-- The infos of a batch in front of the first one without a name. -/
def ProjectInfo.inFront (infos : List ProjectInfo) : List ProjectInfo :=
  infos.takeWhile fun info => info.name ≠ ""

namespace Workspace

/-- Projects are what infos say, one for each info, in their order, and without documents. -/
def MadeOf (infos : List ProjectInfo) (added : List Project) : Prop :=
  List.Forall₂ (fun info p => p = info.project p.id) infos added

variable {w : Workspace} {next : Nat} {infos : List ProjectInfo}

theorem madeOf_numbered (next : Nat) (infos : List ProjectInfo) :
    MadeOf infos (numbered next infos) := by
  induction infos generalizing next with
  | nil => exact .nil
  | cons info infos ih => exact .cons rfl (ih (next + 1))

/-! ## One batch -/

theorem addProject_of_unnamed (hlive : w.disposed = false) {info : ProjectInfo}
    (h : info.name = "") : w.addProject next info = .error .emptyProjectName := by
  rw [addProject, alive_of_live hlive]
  simp [h, bind, Except.bind, throw, throwThe, MonadExceptOf.throw]

/-- **A batch is added up to the first project without a name**, and it is refused exactly if there
is such a project. -/
theorem addProjects_of_live (hlive : w.disposed = false) (next : Nat) (infos : List ProjectInfo) :
    w.addProjects next infos =
      (if ∀ info ∈ infos, info.name ≠ "" then .ok (numbered next infos)
        else .error .emptyProjectName,
      w.extend next (ProjectInfo.inFront infos), next + (ProjectInfo.inFront infos).length) := by
  induction infos generalizing w next with
  | nil =>
    rw [ProjectInfo.inFront, List.takeWhile_nil, extend_nil, if_pos nofun]
    rfl
  | cons info infos ih =>
    by_cases hname : info.name = ""
    · have hfront : ProjectInfo.inFront (info :: infos) = [] :=
        List.takeWhile_cons_of_neg (by simpa using hname)
      rw [addProjects, addProject_of_unnamed hlive hname, hfront, extend_nil,
        if_neg fun h => h info List.mem_cons_self hname]
      rfl
    · have hfront : ProjectInfo.inFront (info :: infos) = info :: ProjectInfo.inFront infos :=
        List.takeWhile_cons_of_pos (by simpa using hname)
      have hfirst : w.addProject next info =
          .ok (info.project next, w.extend next [info], next + 1) :=
        addProject_eq_ok_iff.mpr ⟨hlive, hname, rfl⟩
      have hrest := ih (w := w.extend next [info]) hlive (next + 1)
      rw [hfront, extend_cons, List.length_cons, ← Nat.add_assoc, Nat.add_right_comm]
      simp only [addProjects, hfirst, hrest, List.forall_mem_cons]
      by_cases hall : ∀ other ∈ infos, other.name ≠ ""
      · rw [if_pos hall, if_pos ⟨hname, hall⟩]
        rfl
      · rw [if_neg hall, if_neg fun h => hall h.2]
        rfl

/-! ## Sessions -/

/-- **Several projects are added up to the first one without a name.** In every session, a batch on
a workspace that can be used adds the projects in front of that one, in their order and under ids
that were never issued, and changes nothing else. It answers with them if there is no such project, and
otherwise it is refused for the empty name. -/
theorem added_in_front_of_unnamed (kinds : List String) (first : Nat)
    (commands : List (Nat × Command)) {index : Nat}
    (hw : ((Session.start kinds first).run commands).group.workspaces[index]? = some w)
    (hlive : w.disposed = false) (infos : List ProjectInfo) :
    let s := (Session.start kinds first).run commands
    ∃ added g, s.group.perform index (.addProjects infos) =
        some (if ∀ info ∈ infos, info.name ≠ "" then .ok (.projects added)
          else .error .emptyProjectName, g) ∧
      g.workspaces = s.group.workspaces.set index { w with projects := w.projects ++ added } ∧
      MadeOf (ProjectInfo.inFront infos) added ∧
      (added.map Project.id).Pairwise (· < ·) ∧ ∀ p ∈ added, p.id ∉ s.issued := by
  intro s
  have hsound : s.Sound := Session.Sound.run kinds first commands
  refine ⟨numbered s.group.next (ProjectInfo.inFront infos),
    ⟨s.group.workspaces.set index (w.extend s.group.next (ProjectInfo.inFront infos)),
      s.group.next + (ProjectInfo.inFront infos).length⟩,
    ?_, rfl, madeOf_numbered _ _, ?_, ?_⟩
  · rw [Group.perform, hw, Option.map_some]
    simp only [perform, addProjects_of_live hlive]
    by_cases hall : ∀ info ∈ infos, info.name ≠ ""
    · have hfront : ProjectInfo.inFront infos = infos :=
        List.takeWhile_eq_self_iff.mpr fun info hinfo => decide_eq_true (hall info hinfo)
      rw [if_pos hall, if_pos hall, hfront]
      rfl
    · rw [if_neg hall, if_neg hall]
      rfl
  · rw [map_id_numbered]
    exact List.pairwise_lt_range'
  · -- what was issued is below the counter, and what is added is not
    intro p hp hissued
    have hid : p.id ∈ (numbered s.group.next (ProjectInfo.inFront infos)).map Project.id :=
      List.mem_map_of_mem hp
    rw [map_id_numbered] at hid
    exact absurd (hsound.issued_below _ hissued) (Nat.not_lt.mpr (List.mem_range'_1.mp hid).1)

/-- A batch on a workspace that holds a project already, with a name missing in the middle. -/
theorem added_in_front_of_unnamed_second :
    let s := (Session.start [standardKind] 1).run
      [(0, .addProject ⟨"Base", standardLanguage, []⟩)]
    s.group.workspaces[0]? =
      some ⟨standardKind, [⟨1, "Base", standardLanguage, [], []⟩], [], false⟩ ∧
    ∃ p g, s.group.perform 0 (.addProjects [⟨"App", standardLanguage, ["Base"]⟩,
        ⟨"", standardLanguage, []⟩, ⟨"Test", standardLanguage, []⟩])
          = some (.error .emptyProjectName, g) ∧
      g.workspaces = [⟨standardKind, [⟨1, "Base", standardLanguage, [], []⟩,
        ⟨p, "App", standardLanguage, ["Base"], []⟩], [], false⟩] ∧ p ∉ s.issued := by
  intro s
  have hw : s.group.workspaces[0]? =
      some ⟨standardKind, [⟨1, "Base", standardLanguage, [], []⟩], [], false⟩ := rfl
  refine ⟨hw, ?_⟩
  obtain ⟨added, g, hperform, hafter, hmade, -, hfresh⟩ :=
    added_in_front_of_unnamed [standardKind] 1 [(0, .addProject ⟨"Base", standardLanguage, []⟩)]
      hw rfl [⟨"App", standardLanguage, ["Base"]⟩, ⟨"", standardLanguage, []⟩,
        ⟨"Test", standardLanguage, []⟩]
  have hfront : ProjectInfo.inFront [⟨"App", standardLanguage, ["Base"]⟩,
      ⟨"", standardLanguage, []⟩, ⟨"Test", standardLanguage, []⟩]
        = [⟨"App", standardLanguage, ["Base"]⟩] := by decide
  rw [hfront] at hmade
  obtain ⟨p, others, hp, hnil, rfl⟩ := List.forall₂_cons_left_iff.mp hmade
  obtain rfl := List.forall₂_nil_left_iff.mp hnil
  refine ⟨p.id, g, hperform, ?_, hfresh p List.mem_cons_self⟩
  rw [hafter, hp]
  rfl

/-- A batch of two projects of which the second has no name: it is refused, and the first one is
stored where there was none. -/
theorem half_added :
    let s := Session.start [standardKind] 1
    s.group.workspaces = [⟨standardKind, [], [], false⟩] ∧
    ∃ g, s.group.perform 0 (.addProjects [⟨"A", standardLanguage, []⟩, ⟨"", standardLanguage, []⟩])
        = some (.error .emptyProjectName, g) ∧
      g.workspaces = [⟨standardKind, [⟨1, "A", standardLanguage, [], []⟩], [], false⟩] :=
  ⟨rfl, _, rfl, rfl⟩

end Workspace

end Assay
