import Assay.Proofs.Workspaces.Sessions

/-!
# Workspaces stay consistent

However commands are performed on workspaces that share a counter, every id is issued once and
stored in at most one place, and the contents of every workspace stay in order
(`Session.consistent_run`). One command keeps this (`Session.Sound.perform`): what it stores anew
gets ids that are above all that were issued before.
-/

open scoped List

namespace Assay.Workspace

/-- What holds between commands. -/
structure Session.Sound (s : Session) : Prop where
  orderly : ∀ w ∈ s.group.workspaces, w.Orderly
  issued_once : s.issued.Nodup
  issued_below : ∀ id ∈ s.issued, id < s.group.next
  stored_once : s.group.ids.Nodup
  stored_issued : ∀ id ∈ s.group.ids, id ∈ s.issued
  answered_issued : ∀ e ∈ s.history, ∀ id ∈ e.answered, id ∈ e.issued

/-- Projects and documents are stored under ids that were issued for them alone, in order, and what
is open is stored. -/
structure Session.Consistent (s : Session) : Prop where
  issued_once : (s.history.flatMap Event.issued).Nodup
  answered_issued : ∀ e ∈ s.history, ∀ id ∈ e.answered, id ∈ e.issued
  stored_issued : ∀ id ∈ s.group.ids, id ∈ s.history.flatMap Event.issued
  project_found : ∀ w ∈ s.group.workspaces, ∀ p ∈ w.projects, w.getProject p.id = .ok p
  document_found : ∀ w ∈ s.group.workspaces, ∀ p ∈ w.projects, ∀ d ∈ p.documents,
    w.getDocument d.id = .ok d ∧ d.projectId = p.id
  /-- No id is stored twice, in one project, in two projects or in two workspaces. -/
  stored_once : s.group.ids.Nodup
  opened_stored : ∀ w ∈ s.group.workspaces, ∀ id ∈ w.opened, ∃ d ∈ w.documents, d.id = id
  projects_ascending : ∀ w ∈ s.group.workspaces, (w.projects.map Project.id).Pairwise (· < ·)
  documents_ascending : ∀ w ∈ s.group.workspaces, ∀ p ∈ w.projects,
    (p.documents.map Document.id).Pairwise (· < ·)
  released : ∀ w ∈ s.group.workspaces, w.disposed = true → w.projects = [] ∧ w.opened = []

namespace Session

variable {s : Session} {index next next' : Nat} {w w' : Workspace} {command : Command}
  {answer : Except Error Answer}

theorem issued_append (g : Group) (history : List Event) (e : Event) :
    (Session.mk g (history ++ [e])).issued = history.flatMap Event.issued ++ e.issued := by
  rw [issued, List.flatMap_append, List.flatMap_singleton]

theorem Sound.start (kinds : List String) (first : Nat) : (start kinds first).Sound := by
  have hids : (Session.start kinds first).group.ids = [] := by
    refine List.flatMap_eq_nil_iff.mpr fun w hw => ?_
    obtain ⟨kind, -, rfl⟩ := List.mem_map.mp hw
    rfl
  refine ⟨fun w hw => ?_, List.nodup_nil, nofun, ?_, ?_, nofun⟩
  · obtain ⟨kind, -, rfl⟩ := List.mem_map.mp hw
    exact .fresh kind
  · rw [hids]
    exact List.nodup_nil
  · rw [hids]
    exact nofun

/-- What an answer says was added has ids from the next one on. -/
theorem mem_answered (heffect : Effect w next command answer w' next') {issued : List Nat}
    {id : Nat} (h : id ∈ (Event.mk index command answer issued).answered) :
    next ≤ id ∧ id < next' := by
  cases heffect with
  | addedProject => exact List.mem_range'_1.mp h
  | addedDocument => exact List.mem_range'_1.mp h
  | addedProjects _ _ hanswer =>
    rcases hanswer with ⟨rfl, rfl⟩ | ⟨e, rfl⟩
    · have hid : id ∈ (numbered next _).map Project.id := h
      rw [map_id_numbered] at hid
      exact List.mem_range'_1.mp hid
    · cases h
  | refused =>
    unfold Event.answered at h
    split at h <;> simp_all
  | released hc => rcases hc with rfl | rfl <;> cases h
  | listed | lookedAtProject | lookedAtDocument | asked | entered | rewrote | opened | closed
    | cleared => cases h

/-- The ids that a command issues are those from the next one on, and after it only they and those
that were stored before it are stored. -/
theorem issued_perm {g : Group} (hw : g.workspaces[index]? = some w) (h : w.Orderly)
    (heffect : Effect w g.next command answer w' next') : ∃ count, next' = g.next + count ∧
      ((⟨g.workspaces.set index w', next'⟩ : Group).ids.diff g.ids).Perm
        (List.range' g.next count) ∧
      ∃ missing, (g.ids ++ List.range' g.next count).Perm
        (missing ++ (⟨g.workspaces.set index w', next'⟩ : Group).ids) := by
  obtain ⟨others, hbefore, hafter⟩ := Group.exists_ids_perm hw
  obtain ⟨count, hnext, hids⟩ := heffect.ids_perm h
  refine ⟨count, hnext, ?_⟩
  have hafter := hafter w' next'
  rcases hids with hmore | ⟨hnone, rfl⟩
  · have hadded : (⟨g.workspaces.set index w', next'⟩ : Group).ids.Perm
        (g.ids ++ List.range' g.next count) :=
      calc (⟨g.workspaces.set index w', next'⟩ : Group).ids
        _ ~ w'.ids ++ others := hafter
        _ ~ (w.ids ++ List.range' g.next count) ++ others := hmore.append_right others
        _ ~ (w.ids ++ others) ++ List.range' g.next count := by
            simpa only [List.append_assoc] using List.perm_append_comm.append_left w.ids
        _ ~ g.ids ++ List.range' g.next count := hbefore.symm.append_right _
    exact ⟨diff_perm_of_perm_append hadded, [], hadded.symm⟩
  · rw [hnone, List.nil_append] at hafter
    have hmissing : g.ids.Perm (w.ids ++ (⟨g.workspaces.set index w', next'⟩ : Group).ids) :=
      hbefore.trans (hafter.symm.append_left _)
    rw [diff_eq_nil_of_perm_append hmissing, List.range'_zero, List.append_nil]
    exact ⟨.refl _, w.ids, hmissing⟩

/-- **Every command keeps a session sound.** -/
theorem Sound.perform (h : s.Sound) (index : Nat) (command : Command) :
    (s.perform index command).Sound := by
  rcases perform_cases s index command with
    hsame | ⟨w, answer, w', next', issued, hw, heffect, rfl, hperform⟩
  · rw [hsame]
    exact h
  have hmem := List.mem_of_getElem? hw
  have hbelow : ∀ id ∈ w.ids, id < s.group.next := fun id hid =>
    h.issued_below id (h.stored_issued id (List.mem_flatMap.mpr ⟨w, hmem, hid⟩))
  obtain ⟨count, rfl, hissued, missing, hstored⟩ := issued_perm hw (h.orderly w hmem) heffect
  -- what is issued is new, and all that is stored was issued
  have hfresh : ∀ id ∈ s.issued, id ∉ List.range' s.group.next count := fun id hid hnew =>
    absurd (h.issued_below id hid) (Nat.not_lt.mpr (List.mem_range'_1.mp hnew).1)
  have hall : (s.perform index command).issued.Perm
      (s.issued ++ List.range' s.group.next count) := by
    rw [hperform, issued_append]
    exact hissued.append_left _
  have hnodup : (s.group.ids ++ List.range' s.group.next count).Nodup := by
    refine List.nodup_append.mpr ⟨h.stored_once, List.nodup_range', ?_⟩
    rintro id hid _ hnew rfl
    exact hfresh id (h.stored_issued id hid) hnew
  refine ⟨?_, ?_, ?_, ?_, ?_, ?_⟩
  · rw [hperform]
    intro v hv
    rcases List.mem_or_eq_of_mem_set hv with hv | rfl
    · exact h.orderly v hv
    · exact heffect.orderly (h.orderly w hmem) hbelow
  · refine hall.nodup_iff.mpr (List.nodup_append.mpr ⟨h.issued_once, List.nodup_range', ?_⟩)
    rintro id hid _ hnew rfl
    exact hfresh id hid hnew
  · intro id hid
    rw [hperform]
    rcases List.mem_append.mp (hall.mem_iff.mp hid) with hid | hid
    · exact Nat.lt_add_right count (h.issued_below id hid)
    · exact (List.mem_range'_1.mp hid).2
  · rw [hperform]
    exact (List.nodup_append.mp (hstored.nodup_iff.mp hnodup)).2.1
  · intro id hid
    rw [hperform] at hid
    refine hall.mem_iff.mpr (List.mem_append.mpr ?_)
    exact (List.mem_append.mp (hstored.mem_iff.mpr (List.mem_append_right missing hid))).imp_left
      (h.stored_issued id)
  · rw [hperform]
    intro e he id hid
    rcases List.mem_append.mp he with he | he
    · exact h.answered_issued e he id hid
    · rw [List.mem_singleton] at he
      subst he
      exact hissued.mem_iff.mpr (List.mem_range'_1.mpr (mem_answered heffect hid))

theorem Sound.run (kinds : List String) (first : Nat) (commands : List (Nat × Command)) :
    ((Session.start kinds first).run commands).Sound :=
  run_induction (.start kinds first) (fun _ index command h => h.perform index command) commands

theorem Sound.consistent (h : s.Sound) : s.Consistent where
  issued_once := h.issued_once
  answered_issued := h.answered_issued
  stored_issued := h.stored_issued
  project_found := by
    intro w hw p hp
    have horderly := h.orderly w hw
    exact getProject_of_mem (horderly.live_of_mem hp) horderly.nodup_map_id_projects hp rfl
  document_found := by
    intro w hw p hp d hd
    have horderly := h.orderly w hw
    have hnodup : w.ids.Nodup := (List.nodup_flatMap.mp h.stored_once).1 w hw
    refine ⟨?_, horderly.owned p hp d hd⟩
    exact getDocument_of_mem (horderly.live_of_mem hp) (nodup_map_id_documents hnodup)
      (mem_documents_iff.mpr ⟨p, hp, hd⟩) rfl
  stored_once := h.stored_once
  opened_stored w hw id hid := List.mem_map.mp ((h.orderly w hw).opened_stored id hid)
  projects_ascending w hw := (h.orderly w hw).projects_ascending
  documents_ascending w hw := (h.orderly w hw).documents_ascending
  released w hw := (h.orderly w hw).released

end Session

open Session in
/-- **Workspaces stay consistent, and a command changes only the workspace that it is performed on.**
A command that is refused changes nothing at all, unless it adds several projects. -/
theorem consistent_run (kinds : List String) (first : Nat) (commands : List (Nat × Command)) :
    ((start kinds first).run commands).Consistent ∧
      ∀ index command answer g,
        ((start kinds first).run commands).group.perform index command = some (answer, g) →
          (∀ e, answer = .error e → (∀ infos, command ≠ .addProjects infos) →
            g = ((start kinds first).run commands).group) ∧
          ∀ other, other ≠ index → g.workspaces[other]?
            = ((start kinds first).run commands).group.workspaces[other]? := by
  refine ⟨(Sound.run kinds first commands).consistent, ?_⟩
  generalize (start kinds first).run commands = s
  intro index command answer g hperform
  cases hw : s.group.workspaces[index]? with
  | none =>
    rw [perform_of_none hw] at hperform
    cases hperform
  | some w =>
    obtain ⟨_, w', next', heffect, h⟩ := perform_of_some command hw
    rw [h] at hperform
    cases hperform
    constructor
    · rintro e rfl hcommand
      obtain ⟨rfl, rfl⟩ := heffect.eq_of_error hcommand
      obtain ⟨hlt, rfl⟩ := List.getElem?_eq_some_iff.mp hw
      rw [List.set_getElem_self]
    · intro other hne
      exact List.getElem?_set_ne hne.symm

end Assay.Workspace
