import Assay.Proofs.Workspaces.History

/-!
# Names and texts

Whatever is stored in a workspace has a name. A project or a document without one is refused, and no
command takes a name away (`Effect.named`).

With texts it is different. A document without a text is refused, but later on its text may be replaced
by none. So a stored document was added with a text (`Event.exists_text_of_adds`), and it is without
one exactly if the last text that it was given since then is none (`named_and_written_of_run`).
-/

namespace Assay.Workspace

/-- All that is stored has a name. -/
structure Named (w : Workspace) : Prop where
  projects : ∀ p ∈ w.projects, p.name ≠ ""
  documents : ∀ d ∈ w.documents, d.name ≠ ""

/-- A command that would store something without a name or a text. -/
inductive Command.StoresUnnamed : Command → Prop
  | project {info : ProjectInfo} (h : info.name = "") : StoresUnnamed (.addProject info)
  | projects {infos : List ProjectInfo} {info : ProjectInfo} (hmem : info ∈ infos)
      (h : info.name = "") : StoresUnnamed (.addProjects infos)
  | document (projectId : Int) (text : Option Text) : StoresUnnamed (.addDocument projectId "" text)
  | textless (projectId : Int) (name : String) : StoresUnnamed (.addDocument projectId name none)

variable {w w' : Workspace} {next next' : Nat} {c : Command} {answer : Except Error Answer}

/-! ## Names -/

theorem Named.fresh (kind : String) : (fresh kind).Named := ⟨nofun, nofun⟩

theorem name_ne_of_mem_numbered {infos : List ProjectInfo} (h : ∀ info ∈ infos, info.name ≠ "")
    {p : Project} (hp : p ∈ numbered next infos) : p.name ≠ "" := by
  induction infos generalizing next with
  | nil => cases hp
  | cons info infos ih =>
    rcases List.mem_cons.mp hp with rfl | hp
    · exact h info List.mem_cons_self
    · exact ih (fun other hother => h other (List.mem_cons_of_mem _ hother)) hp

theorem Named.extend (h : w.Named) {infos : List ProjectInfo}
    (hinfos : ∀ info ∈ infos, info.name ≠ "") : (w.extend next infos).Named where
  projects := by
    intro p hp
    rcases List.mem_append.mp hp with hp | hp
    · exact h.projects p hp
    · exact name_ne_of_mem_numbered hinfos hp
  documents := by
    rw [documents_extend]
    exact h.documents

theorem Named.file (h : w.Named) {p : Project} (hp : p ∈ w.projects) {d : Document}
    (hid : d.projectId = p.id) (hname : d.name ≠ "") : (w.file d).Named where
  projects := forall_mapDocuments h.projects fun q hq _ => h.projects q hq
  documents := by
    intro e he
    rcases (mem_documents_file hp hid).mp he with he | rfl
    · exact h.documents e he
    · exact hname

/-- A change of a text leaves the names as they are. -/
theorem Named.rewrite (h : w.Named) {d : Document} (hd : d ∈ w.documents) (text : Option Text) :
    (w.rewrite d text).Named where
  projects := forall_mapDocuments h.projects fun q hq _ => h.projects q hq
  documents := by
    intro e he
    obtain ⟨p, hp, he⟩ := mem_documents_mapDocuments.mp he
    split at he
    · obtain ⟨other, hother, rfl⟩ := List.mem_map.mp he
      split
      · exact h.documents d hd
      · exact h.documents other (mem_documents_iff.mpr ⟨p, hp, hother⟩)
    · exact h.documents e (mem_documents_iff.mpr ⟨p, hp, he⟩)

/-- **Every command leaves a name with all that is stored.** -/
theorem Effect.named (heffect : Effect w next c answer w' next') (h : w.Named) : w'.Named := by
  cases heffect with
  | refused | listed | lookedAtProject | lookedAtDocument | asked | entered => exact h
  | addedProject hlive hname =>
    refine h.extend fun other hother => ?_
    rw [List.mem_singleton.mp hother]
    exact hname
  | addedProjects hfront hmade => exact h.extend fun info hinfo => (hmade info hinfo).2
  | addedDocument hproject hname => exact h.file (mem_of_getProject hproject).1 rfl hname
  | rewrote hd => exact h.rewrite (mem_of_getDocument hd).1 _
  | opened | closed => exact ⟨h.projects, h.documents⟩
  | cleared => exact ⟨nofun, nofun⟩
  | released =>
    unfold dispose
    split
    · exact h
    · exact ⟨nofun, nofun⟩

/-- **What would be stored without a name or a text is refused.** -/
theorem exists_error_of_storesUnnamed (w : Workspace) (next : Nat) (hc : c.StoresUnnamed) :
    ∃ e, (w.perform next c).1 = .error e := by
  have heffect := effect_perform w next c
  generalize (w.perform next c).1 = answer, (w.perform next c).2.1 = w',
    (w.perform next c).2.2 = next' at heffect
  cases heffect with
  | refused => exact ⟨_, rfl⟩
  | addedProject hlive hname =>
    cases hc with
    | project h => exact absurd h hname
  | addedProjects hfront hmade hanswer =>
    cases hc with
    | projects hmem h =>
      rcases hanswer with ⟨-, rfl⟩ | herror
      · exact absurd h (hmade _ hmem).2
      · exact herror
  | addedDocument hproject hname =>
    cases hc with
    | document => exact absurd rfl hname
  | released h => rcases h with rfl | rfl <;> cases hc
  | listed | lookedAtProject | lookedAtDocument | asked | entered | rewrote | opened | closed
    | cleared => cases hc

/-! ## Histories -/

/-- A document that was added has a text. -/
theorem Event.exists_text_of_adds {e : Event} {index : Nat} {d : Document}
    (heffect : Effect w next e.command e.answer w' next') (hadds : e.Adds index d) :
    ∃ t, d.text = some t := by
  obtain ⟨id, projectId, name, text⟩ := d
  obtain ⟨-, hcommand, added, hanswer, -⟩ := hadds
  rw [hcommand, hanswer] at heffect
  cases heffect with
  | addedDocument => exact ⟨_, rfl⟩

theorem Event.command_of_newText? {e : Event} {index : Nat} {id : Int} {text : Option Text}
    (h : e.newText? index id = some text) : e.command = .withText id text := by
  unfold newText? at h
  split at h
  · next i given answer hcommand _ =>
    split at h
    · next hid =>
      cases h
      rw [hcommand, hid.2]
    · cases h
  · cases h

namespace Session

variable {s : Session} {index : Nat} {d : Document}

theorem named_run (kinds : List String) (first : Nat) (commands : List (Nat × Command)) :
    ∀ w ∈ ((start kinds first).run commands).group.workspaces, w.Named := by
  refine run_induction (motive := fun s => ∀ w ∈ s.group.workspaces, w.Named) ?_ ?_ commands
  · intro w hw
    obtain ⟨kind, -, rfl⟩ := List.mem_map.mp hw
    exact .fresh kind
  · intro s index command h
    rcases perform_cases s index command with
      hsame | ⟨w, answer, w', next', issued, hw, heffect, -, hperform⟩
    · rw [hsame]
      exact h
    · rw [hperform]
      intro v hv
      rcases List.mem_or_eq_of_mem_set hv with hv | rfl
      · exact h v hv
      · exact heffect.named (h w (List.mem_of_getElem? hw))

/-- What is in a history has come about by an effect. -/
theorem effect_of_mem_history (kinds : List String) (first : Nat)
    (commands : List (Nat × Command)) :
    ∀ e ∈ ((start kinds first).run commands).history,
      ∃ w next w' next', Effect w next e.command e.answer w' next' := by
  refine run_induction (motive := fun s => ∀ e ∈ s.history,
    ∃ w next w' next', Effect w next e.command e.answer w' next') ?_ ?_ commands
  · intro e he
    cases he
  intro s index command h
  rcases perform_cases s index command with
    hsame | ⟨w, answer, w', next', issued, -, heffect, -, hperform⟩
  · rw [hsame]
    exact h
  · rw [hperform]
    intro e he
    rcases List.mem_append.mp he with he | he
    · exact h e he
    · rw [List.mem_singleton.mp he]
      exact ⟨w, s.group.next, w', next', heffect⟩

theorem mem_commands_of_mem_history {commands : List (Nat × Command)} {e : Event}
    (he : e ∈ (s.run commands).history) : e ∈ s.history ∨ (e.index, e.command) ∈ commands := by
  induction commands generalizing s with
  | nil => exact Or.inl he
  | cons entry commands ih =>
    rcases ih (s := s.perform entry.1 entry.2) he with hbefore | hlater
    · rcases perform_cases s entry.1 entry.2 with
        hsame | ⟨w, answer, w', next', issued, -, -, -, hperform⟩
      · rw [hsame] at hbefore
        exact Or.inl hbefore
      · rw [hperform] at hbefore
        rcases List.mem_append.mp hbefore with hbefore | hnow
        · exact Or.inl hbefore
        · rw [List.mem_singleton.mp hnow]
          exact Or.inr List.mem_cons_self
    · exact Or.inr (List.mem_cons_of_mem _ hlater)

/-- A document that is stored was added with a text, and has the one that it was given last. -/
theorem exists_added_of_mem_documents (kinds : List String) (first : Nat)
    (commands : List (Nat × Command))
    (hw : ((start kinds first).run commands).group.workspaces[index]? = some w)
    (hd : d ∈ w.documents) :
    ∃ before added after t, ((start kinds first).run commands).history = before ++ added :: after ∧
      added.Adds index { d with text := some t } ∧
      d.text = (after.filterMap (Event.newText? index d.id)).getLastD (some t) := by
  have horderly := (Sound.run kinds first commands).orderly w (List.mem_of_getElem? hw)
  obtain ⟨p, hp, -⟩ := horderly.exists_project hd
  obtain ⟨before, added, after, hsplit, text, hadds, -, htext⟩ :=
    ((Remembers.run kinds first commands).stored hw (horderly.live_of_mem hp) d).mp hd
  obtain ⟨v, next, v', next', heffect⟩ := effect_of_mem_history kinds first commands added
    (by rw [hsplit]; exact List.mem_append_right _ List.mem_cons_self)
  obtain ⟨t, rfl⟩ : ∃ t, text = some t := Event.exists_text_of_adds heffect hadds
  exact ⟨before, added, after, t, hsplit, hadds, htext⟩

end Session

/-! ## All sessions -/

theorem getLastD_eq_none_iff {α : Type} {texts : List (Option α)} {a : α} :
    texts.getLastD (some a) = none ↔ texts.getLast? = some none := by
  rw [List.getLastD_eq_getLast?]
  cases texts.getLast? <;> simp

/-- **Whatever is stored has a name, and it has a text unless that was taken away.** A document was
added with a text, and it has none exactly if the last one that it was given since then is none; if no
command replaces a text by none, all documents have texts. Every other command that would store
something without a name or a text is refused. -/
theorem named_and_written_of_run (kinds : List String) (first : Nat)
    (commands : List (Nat × Command)) :
    let s := (Session.start kinds first).run commands
    (∀ w ∈ s.group.workspaces, w.Named) ∧
    (∀ index w, s.group.workspaces[index]? = some w → ∀ d ∈ w.documents,
      ∃ before added after t, s.history = before ++ added :: after ∧
        added.Adds index { d with text := some t } ∧
        (d.text = none ↔
          (after.filterMap (Event.newText? index d.id)).getLast? = some none)) ∧
    ((∀ entry ∈ commands, ∀ id, entry.2 ≠ .withText id none) →
      ∀ w ∈ s.group.workspaces, ∀ d ∈ w.documents, d.text ≠ none) ∧
    ∀ (w : Workspace) next c, Command.StoresUnnamed c → ∃ e, (w.perform next c).1 = .error e := by
  intro s
  have hstored : ∀ index w, s.group.workspaces[index]? = some w → ∀ d ∈ w.documents,
      ∃ before added after t, s.history = before ++ added :: after ∧
        added.Adds index { d with text := some t } ∧
        (d.text = none ↔
          (after.filterMap (Event.newText? index d.id)).getLast? = some none) := by
    intro index w hw d hd
    obtain ⟨before, added, after, t, hsplit, hadds, htext⟩ :=
      Session.exists_added_of_mem_documents kinds first commands hw hd
    exact ⟨before, added, after, t, hsplit, hadds, by rw [htext, getLastD_eq_none_iff]⟩
  refine ⟨Session.named_run kinds first commands, hstored, ?_,
    fun w next c hc => exists_error_of_storesUnnamed w next hc⟩
  intro hkeeps w hw d hd hnone
  obtain ⟨index, hindex⟩ := List.mem_iff_getElem?.mp hw
  obtain ⟨before, added, after, t, hsplit, -, htext⟩ := hstored index w hindex d hd
  -- the text was taken away by an event, and this by one of the commands
  obtain ⟨e, he, htaken⟩ :=
    List.mem_filterMap.mp (List.mem_of_getLast? (htext.mp hnone))
  have hmem : e ∈ s.history := by
    rw [hsplit]
    exact List.mem_append_right _ (List.mem_cons_of_mem _ he)
  rcases Session.mem_commands_of_mem_history hmem with hstart | hcommand
  · cases hstart
  · exact hkeeps _ hcommand d.id (Event.command_of_newText? htaken)

/-- A text can be replaced by none, and the document is stored without one. -/
theorem stored_without_text :
    let s := (Session.start [standardKind] 1).run
      [(0, .addProject ⟨"Base", standardLanguage, []⟩), (0, .addDocument 1 "Page" (some ['a']))]
    ∃ g, s.group.perform 0 (.withText 2 none) = some (.ok (.document ⟨2, 1, "Page", none⟩), g) ∧
      ∃ w ∈ g.workspaces, (⟨2, 1, "Page", none⟩ : Document) ∈ w.documents :=
  ⟨_, rfl, _, List.mem_cons_self, List.mem_cons_self⟩

end Assay.Workspace
