import Assay.Proofs.Workspaces.Consistency
import Mathlib.Data.List.Induction

/-!
# What a workspace answers is what was done to it

A workspace could be replaced by its history. A document is there if it was added and the workspace
was not cleared since, with the name and the project that it was added with and with the text that
it was given last (`Recalls`); and it is open if it was opened and since then neither closed nor
cleared away (`Since`). Both are read off the history from its end on (`recalls_concat`,
`since_concat`), so a state agrees with its history if every command keeps it so
(`Session.Remembers.perform`). Events that are not about a document can be left out of the history
(`recalls_filter`, `since_filter`).
-/

namespace Assay.Workspace

/-! ## What events are about -/

namespace Event

/-- Whether an event has added a document to the workspace with an index: name, project and text are
those of the command, and the id that of the answer. -/
def Adds (e : Event) (index : Nat) (d : Document) : Prop :=
  e.index = index ∧ e.command = .addDocument d.projectId d.name d.text ∧
    ∃ added, e.answer = .ok (.document added) ∧ added.id = d.id

/-- The text that an event has given to a document. -/
def newText? (index : Nat) (id : Int) (e : Event) : Option (Option Text) :=
  match e.command, e.answer with
  | .withText i text, .ok _ => if e.index = index ∧ i = id then some text else none
  | _, _ => none

/-- Whether an event has cleared the workspace with an index. -/
def Clears (e : Event) (index : Nat) : Prop :=
  e.index = index ∧ e.command = .clear ∧ ∃ answer, e.answer = .ok answer

/-- Whether an event has opened a document. -/
def Opens (e : Event) (index : Nat) (id : Int) : Prop :=
  e.index = index ∧ e.command = .openDocument id ∧ ∃ answer, e.answer = .ok answer

/-- Whether an event has closed a document. -/
def Closes (e : Event) (index : Nat) (id : Int) : Prop :=
  e.index = index ∧ e.command = .close id ∧ ∃ answer, e.answer = .ok answer

/-- Whether an event is about the document with an id in the workspace with an index: about this
document, or about all that are in the workspace. -/
def concerns (index : Nat) (id : Int) (e : Event) : Bool :=
  decide (e.index = index) &&
    match e.command, e.answer with
    | .addDocument _ _ _, .ok (.document d) => (d.id : Int) = id
    | .withText i _, _ | .openDocument i, _ | .close i, _ => i = id
    | .clear, _ => true
    | _, _ => false

end Event

/-! ## Reading a history -/

/-- Some event has happened, and since then none of another kind. -/
def Since (happens ends : Event → Prop) (history : List Event) : Prop :=
  ∃ before e after, history = before ++ e :: after ∧ happens e ∧ ∀ later ∈ after, ¬ ends later

/-- A document is what was added, with the text that it was given last, and the workspace was not
cleared since. -/
def Recalls (history : List Event) (index : Nat) (d : Document) : Prop :=
  ∃ before added after, history = before ++ added :: after ∧ ∃ text,
    added.Adds index { d with text := text } ∧ (∀ later ∈ after, ¬ later.Clears index) ∧
    d.text = (after.filterMap (Event.newText? index d.id)).getLastD text

/-- A document was opened, and since then it was neither closed nor cleared away. -/
def OpenSince (history : List Event) (index : Nat) (id : Int) : Prop :=
  Since (·.Opens index id) (fun e => e.Closes index id ∨ e.Clears index) history

variable {history : List Event} {e : Event} {index : Nat} {id : Int} {d : Document}

/-- A place in a list with one more item is the last one, or it was there before. -/
theorem exists_split_concat {α : Type} {l : List α} {last : α} {motive : α → List α → Prop} :
    (∃ before a after, l ++ [last] = before ++ a :: after ∧ motive a after) ↔
      motive last [] ∨ ∃ before a after, l = before ++ a :: after ∧ motive a (after ++ [last]) := by
  constructor
  · rintro ⟨before, a, after, h, ha⟩
    rcases List.eq_nil_or_concat after with rfl | ⟨front, b, rfl⟩
    · obtain ⟨-, hlast⟩ := List.append_inj' h rfl
      rw [List.singleton_inj] at hlast
      exact Or.inl (hlast ▸ ha)
    · rw [List.concat_eq_append] at h ha
      rw [← List.cons_append, ← List.append_assoc] at h
      obtain ⟨hfront, hlast⟩ := List.append_inj' h rfl
      rw [List.singleton_inj] at hlast
      exact Or.inr ⟨before, a, front, hfront, hlast ▸ ha⟩
  · rintro (h | ⟨before, a, after, rfl, ha⟩)
    · exact ⟨l, last, [], rfl, h⟩
    · exact ⟨before, a, after ++ [last], by simp, ha⟩

theorem since_nil {happens ends : Event → Prop} : ¬ Since happens ends [] := by
  rintro ⟨before, e, after, h, -⟩
  exact List.append_ne_nil_of_right_ne_nil before (List.cons_ne_nil e after) h.symm

theorem since_concat {happens ends : Event → Prop} : Since happens ends (history ++ [e]) ↔
    happens e ∨ Since happens ends history ∧ ¬ ends e := by
  rw [Since, exists_split_concat, Since]
  simp only [List.forall_mem_append, List.forall_mem_singleton]
  grind

theorem recalls_nil : ¬ Recalls [] index d := by
  rintro ⟨before, added, after, h, -⟩
  exact List.append_ne_nil_of_right_ne_nil before (List.cons_ne_nil added after) h.symm

theorem getLastD_filterMap_concat {α β : Type} (f : α → Option β) (l : List α) (a : α) (b : β) :
    ((l ++ [a]).filterMap f).getLastD b = (f a).getD ((l.filterMap f).getLastD b) := by
  rw [List.filterMap_append]
  cases h : f a <;> simp [h]

/-- A document is read off the end of a history: the last event has added it, or it has at most
given it another text. -/
theorem recalls_concat : Recalls (history ++ [e]) index d ↔ e.Adds index d ∨
    ¬ e.Clears index ∧ ∃ text, Recalls history index { d with text := text } ∧
      d.text = (e.newText? index d.id).getD text := by
  rw [Recalls, exists_split_concat]
  refine or_congr ⟨?_, fun h => ⟨d.text, h, nofun, rfl⟩⟩ ⟨?_, ?_⟩
  · rintro ⟨text, hadds, -, htext⟩
    obtain rfl : d.text = text := htext
    exact hadds
  · rintro ⟨before, added, after, hsplit, text, hadds, hafter, htext⟩
    rw [List.forall_mem_append, List.forall_mem_singleton] at hafter
    rw [getLastD_filterMap_concat] at htext
    exact ⟨hafter.2, (after.filterMap (Event.newText? index d.id)).getLastD text,
      ⟨before, added, after, hsplit, text, hadds, hafter.1, rfl⟩, htext⟩
  · rintro ⟨hclears, latest, ⟨before, added, after, hsplit, text, hadds, hafter, hlatest⟩, htext⟩
    refine ⟨before, added, after, hsplit, text, hadds, ?_, ?_⟩
    · rw [List.forall_mem_append, List.forall_mem_singleton]
      exact ⟨hafter, hclears⟩
    · rw [getLastD_filterMap_concat, htext]
      exact congrArg _ hlatest

/-! ## Events that change nothing -/

/-- An event that neither adds nor rewrites the document nor clears the workspace. -/
theorem recalls_step_of_quiet (stored : Document → Prop) (hadds : ¬ e.Adds index d)
    (hclears : ¬ e.Clears index) (htext : e.newText? index d.id = none) :
    (e.Adds index d ∨ ¬ e.Clears index ∧ ∃ text, stored { d with text := text } ∧
      d.text = (e.newText? index d.id).getD text) ↔ stored d := by
  simp [hadds, hclears, htext]

theorem Event.quiet_of_error {error : Error} (h : e.answer = .error error) (index : Nat) (id : Int)
    (d : Document) :
    ¬ e.Adds index d ∧ ¬ e.Clears index ∧ e.newText? index id = none ∧
      ¬ e.Opens index id ∧ ¬ e.Closes index id := by
  refine ⟨?_, ?_, ?_, ?_, ?_⟩
  · rintro ⟨-, -, added, hanswer, -⟩
    cases h.symm.trans hanswer
  · rintro ⟨-, -, answer, hanswer⟩
    cases h.symm.trans hanswer
  · unfold newText?
    split
    · next hanswer => cases h.symm.trans hanswer
    · rfl
  · rintro ⟨-, -, answer, hanswer⟩
    cases h.symm.trans hanswer
  · rintro ⟨-, -, answer, hanswer⟩
    cases h.symm.trans hanswer

theorem Event.quiet_of_not_concerns (h : e.concerns index id = false) :
    (∀ d : Document, (d.id : Int) = id → ¬ e.Adds index d) ∧ ¬ e.Clears index ∧
      e.newText? index id = none ∧ ¬ e.Opens index id ∧ ¬ e.Closes index id := by
  obtain ⟨i, command, answer, issued⟩ := e
  refine ⟨?_, ?_, ?_, ?_, ?_⟩
  · rintro d rfl ⟨rfl, rfl, added, rfl, hid⟩
    simp [concerns, hid] at h
  · rintro ⟨rfl, rfl, answer, rfl⟩
    simp [concerns] at h
  · unfold newText?
    split
    · next text answer hcommand hanswer =>
      refine if_neg ?_
      rintro ⟨rfl, rfl⟩
      simp_all [concerns]
    · rfl
  · rintro ⟨rfl, rfl, answer, rfl⟩
    simp [concerns] at h
  · rintro ⟨rfl, rfl, answer, rfl⟩
    simp [concerns] at h

/-- Events that are not about a document can be left out. -/
theorem recalls_filter (hid : (d.id : Int) = id) :
    Recalls (history.filter (·.concerns index id)) index d ↔ Recalls history index d := by
  induction history using List.reverseRecOn generalizing d with
  | nil => rfl
  | append_singleton history e ih =>
    rw [List.filter_append]
    cases h : e.concerns index id with
    | true =>
      have hlatest (text : Option Text) := ih (d := { d with text := text }) hid
      rw [List.filter_cons_of_pos h, List.filter_nil, recalls_concat, recalls_concat]
      simp only [hlatest]
    | false =>
      obtain ⟨hadds, hclears, htext, -⟩ := Event.quiet_of_not_concerns h
      rw [List.filter_cons_of_neg (by simp [h]), List.filter_nil, List.append_nil, recalls_concat,
        ih hid]
      exact (recalls_step_of_quiet (Recalls history index) (hadds d hid) hclears
        (hid ▸ htext)).symm

theorem openSince_filter :
    OpenSince (history.filter (·.concerns index id)) index id ↔ OpenSince history index id := by
  unfold OpenSince
  induction history using List.reverseRecOn with
  | nil => rfl
  | append_singleton history e ih =>
    rw [List.filter_append]
    cases h : e.concerns index id with
    | true => rw [List.filter_cons_of_pos h, List.filter_nil, since_concat, since_concat, ih]
    | false =>
      obtain ⟨-, hclears, -, hopens, hcloses⟩ := Event.quiet_of_not_concerns h
      rw [List.filter_cons_of_neg (by simp [h]), List.filter_nil, List.append_nil, since_concat, ih]
      simp [hopens, hcloses, hclears]

/-! ## States agree with their history -/

variable {w w' : Workspace} {next next' : Nat} {command : Command} {answer : Except Error Answer}

theorem adds_addDocument_iff {projectId next : Nat} {name : String} {t : Option Text}
    {issued : List Nat} :
    (Event.mk index (.addDocument projectId name t) (.ok (.document ⟨next, projectId, name, t⟩))
      issued).Adds index d ↔ d = ⟨next, projectId, name, t⟩ := by
  constructor
  · rintro ⟨-, hcommand, added, hanswer, hid⟩
    cases hanswer
    obtain ⟨id, projectId, name, text⟩ := d
    simp only [Command.addDocument.injEq, Int.ofNat_inj] at hcommand
    obtain ⟨rfl, rfl, rfl⟩ := hcommand
    exact congrArg (Document.mk · _ _ _) hid.symm
  · rintro rfl
    exact ⟨rfl, rfl, _, rfl, rfl⟩

/-- The documents behind a change of a text are those before, with this text if it is theirs. -/
theorem mem_documents_rewrite_iff {d₀ : Document} (h : w.Orderly) (hnodup : w.ids.Nodup)
    (hmem : d₀ ∈ w.documents) (text : Option Text) (d : Document) :
    d ∈ (w.rewrite d₀ text).documents ↔ ∃ first, { d with text := first } ∈ w.documents ∧
      d.text = (if d.id = d₀.id then some text else none).getD first := by
  rw [mem_documents_rewrite h hnodup hmem]
  by_cases hid : d.id = d₀.id
  · have hsame {first : Option Text} (hstored : { d with text := first } ∈ w.documents) :
        { d with text := first } = d₀ :=
      List.inj_on_of_nodup_map (nodup_map_id_documents hnodup) hstored hmem hid
    rw [if_pos hid]
    constructor
    · rintro (⟨-, hne⟩ | rfl)
      · exact absurd hid hne
      · exact ⟨d₀.text, hmem, rfl⟩
    · rintro ⟨first, hstored, hd⟩
      refine Or.inr ?_
      rw [← hsame hstored, ← Option.getD_some (a := text), ← hd]
  · rw [if_neg hid]
    constructor
    · rintro (⟨hstored, -⟩ | rfl)
      · exact ⟨d.text, hstored, rfl⟩
      · exact absurd rfl hid
    · rintro ⟨first, hstored, hd⟩
      obtain rfl : d.text = first := hd
      exact Or.inl ⟨hstored, hid⟩

/-- What a command stores is read off the event as off the end of a history. -/
theorem Effect.mem_documents_iff (heffect : Effect w next command answer w' next')
    (h : w.Orderly) (hnodup : w.ids.Nodup) (hlive : w'.disposed = false) (index : Nat)
    (issued : List Nat) (d : Document) : d ∈ w'.documents ↔
      (Event.mk index command answer issued).Adds index d ∨
        ¬ (Event.mk index command answer issued).Clears index ∧
          ∃ text, { d with text := text } ∈ w.documents ∧
            d.text = ((Event.mk index command answer issued).newText? index d.id).getD text := by
  have hquiet (hadds : ¬ (Event.mk index command answer issued).Adds index d)
      (hclears : ¬ (Event.mk index command answer issued).Clears index)
      (htext : (Event.mk index command answer issued).newText? index d.id = none) :=
    (recalls_step_of_quiet (· ∈ w.documents) hadds hclears htext).symm
  cases heffect with
  | refused =>
    obtain ⟨hadds, hclears, htext, -⟩ :=
      Event.quiet_of_error (e := ⟨index, command, _, issued⟩) rfl index d.id d
    exact hquiet hadds hclears htext
  | listed | lookedAtProject | lookedAtDocument | asked | entered | opened | closed =>
    exact hquiet (by simp [Event.Adds]) (by simp [Event.Clears]) rfl
  | addedProject | addedProjects =>
    rw [documents_extend]
    exact hquiet (by simp [Event.Adds]) (by simp [Event.Clears]) rfl
  | @addedDocument projectId name t p hproject =>
    obtain ⟨hp, rfl⟩ := mem_of_getProject hproject
    rw [mem_documents_file hp rfl, or_comm, adds_addDocument_iff]
    exact or_congr Iff.rfl (by simp [Event.Clears, Event.newText?])
  | @rewrote id text d₀ hd =>
    obtain ⟨hmem, rfl⟩ := mem_of_getDocument hd
    have htext : (Event.mk index (.withText d₀.id text) (.ok (.document { d₀ with text := text }))
        issued).newText? index d.id = if d.id = d₀.id then some text else none :=
      if_congr ⟨fun h => Int.ofNat_inj.mp h.2.symm, fun hid => ⟨rfl, by rw [hid]⟩⟩ rfl rfl
    rw [mem_documents_rewrite_iff h hnodup hmem, htext]
    simp [Event.Adds, Event.Clears]
  | cleared => simp [documents, Event.Adds, Event.Clears]
  | released => exact absurd (hlive.symm.trans w.dispose_disposed) (by decide)

/-- So is which documents are open. -/
theorem Effect.opened_iff (heffect : Effect w next command answer w' next')
    (hlive : w'.disposed = false) (index : Nat) (issued : List Nat) (id : Int) :
    (∃ i ∈ w'.opened, (i : Int) = id) ↔
      (Event.mk index command answer issued).Opens index id ∨ (∃ i ∈ w.opened, (i : Int) = id) ∧
        ¬ ((Event.mk index command answer issued).Closes index id ∨
          (Event.mk index command answer issued).Clears index) := by
  cases heffect with
  | @refused command error =>
    obtain ⟨-, hclears, -, hopens, hcloses⟩ :=
      Event.quiet_of_error (e := ⟨index, command, .error error, issued⟩) rfl index id default
    simp [hopens, hcloses, hclears]
  | listed | lookedAtProject | lookedAtDocument | asked | entered | addedProject | addedProjects
    | addedDocument | rewrote =>
    simp [Event.Opens, Event.Closes, Event.Clears, extend, file, rewrite, mapDocuments]
  | @opened id' d hd =>
    obtain ⟨-, rfl⟩ := mem_of_getDocument hd
    have hmem (i : Nat) :
        i ∈ (if d.id ∈ w.opened then w.opened else w.opened ++ [d.id]) ↔ i = d.id ∨ i ∈ w.opened := by
      split <;> simp_all [or_comm]
    simp [hmem, or_and_right, exists_or, Event.Opens, Event.Closes, Event.Clears]
  | @closed id' d hd =>
    obtain ⟨-, rfl⟩ := mem_of_getDocument hd
    have hkept : (∃ i ∈ w.opened.filter (· ≠ d.id), (i : Int) = id) ↔
        (∃ i ∈ w.opened, (i : Int) = id) ∧ (d.id : Int) ≠ id := by grind
    simpa [Event.Opens, Event.Closes, Event.Clears] using hkept
  | cleared => simp [Event.Opens, Event.Clears]
  | released => exact absurd (hlive.symm.trans w.dispose_disposed) (by decide)

/-- What is disposed of stays so. -/
theorem Effect.live (heffect : Effect w next command answer w' next')
    (hlive : w'.disposed = false) : w.disposed = false := by
  cases heffect with
  | released => exact absurd (hlive.symm.trans w.dispose_disposed) (by decide)
  | refused | listed | lookedAtProject | lookedAtDocument | asked | entered | addedProject
    | addedProjects | addedDocument | rewrote | opened | closed | cleared => exact hlive

/-- What a live workspace holds is what the history says. -/
structure Session.Remembers (s : Session) : Prop where
  stored {index : Nat} {w : Workspace} (hw : s.group.workspaces[index]? = some w)
    (hlive : w.disposed = false) (d : Document) : d ∈ w.documents ↔ Recalls s.history index d
  opened {index : Nat} {w : Workspace} (hw : s.group.workspaces[index]? = some w)
    (hlive : w.disposed = false) (id : Int) :
    (∃ i ∈ w.opened, (i : Int) = id) ↔ OpenSince s.history index id

namespace Session

variable {s : Session}

theorem Remembers.start (kinds : List String) (first : Nat) : (start kinds first).Remembers := by
  have hfresh {index : Nat} {w : Workspace}
      (hw : (Session.start kinds first).group.workspaces[index]? = some w) :
      ∃ kind, w = fresh kind := by
    obtain ⟨kind, -, rfl⟩ := List.mem_map.mp (List.mem_of_getElem? hw)
    exact ⟨kind, rfl⟩
  constructor
  · intro index w hw _ d
    obtain ⟨kind, rfl⟩ := hfresh hw
    exact iff_of_false List.not_mem_nil recalls_nil
  · intro index w hw _ id
    obtain ⟨kind, rfl⟩ := hfresh hw
    exact iff_of_false (by simp [fresh]) since_nil

/-- **Every command keeps a session in agreement with its history.** -/
theorem Remembers.perform (h : s.Remembers) (hsound : s.Sound) (index : Nat) (command : Command) :
    (s.perform index command).Remembers := by
  rcases perform_cases s index command with
    hsame | ⟨w, answer, w', next', issued, hw, heffect, -, hperform⟩
  · rw [hsame]
    exact h
  have hmem := List.mem_of_getElem? hw
  have hnodup : w.ids.Nodup := (List.nodup_flatMap.mp hsound.stored_once).1 w hmem
  have hother {other : Nat} (hne : index ≠ other) (id : Int) :
      (Event.mk index command answer issued).concerns other id = false := by
    simp [Event.concerns, hne]
  rw [hperform]
  constructor
  · intro other v hv hlive d
    rw [recalls_concat]
    by_cases hne : index = other
    · subst hne
      obtain rfl : w' = v := by simpa [(List.getElem?_eq_some_iff.mp hw).1] using hv
      rw [heffect.mem_documents_iff (hsound.orderly w hmem) hnodup hlive index issued d]
      simp only [h.stored hw (heffect.live hlive)]
    · rw [List.getElem?_set_ne hne] at hv
      obtain ⟨hadds, hclears, htext, -⟩ := Event.quiet_of_not_concerns (hother hne d.id)
      rw [recalls_step_of_quiet (Recalls s.history other) (hadds d rfl) hclears htext]
      exact h.stored hv hlive d
  · intro other v hv hlive id
    rw [OpenSince, since_concat]
    by_cases hne : index = other
    · subst hne
      obtain rfl : w' = v := by simpa [(List.getElem?_eq_some_iff.mp hw).1] using hv
      rw [heffect.opened_iff hlive index issued id, h.opened hw (heffect.live hlive), OpenSince]
    · rw [List.getElem?_set_ne hne] at hv
      obtain ⟨-, hclears, -, hopens, hcloses⟩ := Event.quiet_of_not_concerns (hother hne id)
      rw [h.opened hv hlive, OpenSince]
      simp [hopens, hcloses, hclears]

theorem Remembers.run (kinds : List String) (first : Nat) (commands : List (Nat × Command)) :
    ((Session.start kinds first).run commands).Remembers := by
  refine (run_induction (motive := fun s => s.Sound ∧ s.Remembers)
    ⟨.start kinds first, .start kinds first⟩ ?_ commands).2
  intro s index command h
  exact ⟨h.1.perform index command, h.2.perform h.1 index command⟩

/-! ## Answers -/

/-- A document is found if it is recalled. -/
theorem Remembers.getDocument_eq_ok_iff (h : s.Remembers) (hsound : s.Sound)
    (hw : s.group.workspaces[index]? = some w) (hlive : w.disposed = false) :
    w.getDocument id = .ok d ↔ Recalls s.history index d ∧ (d.id : Int) = id := by
  have hnodup : w.ids.Nodup :=
    (List.nodup_flatMap.mp hsound.stored_once).1 w (List.mem_of_getElem? hw)
  rw [← h.stored hw hlive d]
  constructor
  · exact mem_of_getDocument
  · rintro ⟨hd, hid⟩
    exact getDocument_of_mem hlive (nodup_map_id_documents hnodup) hd hid

theorem Remembers.isOpen_eq_ok_iff (h : s.Remembers) (hw : s.group.workspaces[index]? = some w)
    (hlive : w.disposed = false) (b : Bool) :
    w.isOpen id = .ok b ↔ (b = true ↔ OpenSince s.history index id) := by
  rw [isOpen_of_live hlive, ← h.opened hw hlive id, Except.ok.injEq, eq_comm, Bool.eq_iff_iff]
  simp

end Session

/-- A document that is not found is unknown. -/
theorem getDocument_eq_error_iff (hlive : w.disposed = false) {error : Error} :
    w.getDocument id = .error error ↔
      error = .unknownDocument id ∧ ∀ d, w.getDocument id ≠ .ok d := by
  rw [getDocument_of_live hlive]
  split <;> simp [eq_comm]

/-- **A live workspace answers what its history says.** It finds the document that was added, with
the text that it was given last, unless the workspace was cleared since; under every other id no
document is known; and a document is open if it was opened and since neither closed nor cleared
away. The answers are the same in every other run in which the same has happened to the document. -/
theorem answers_of_run (kinds : List String) (first : Nat) (commands : List (Nat × Command))
    (index : Nat) {w : Workspace}
    (hw : ((Session.start kinds first).run commands).group.workspaces[index]? = some w)
    (hlive : w.disposed = false) (id : Int) :
    (∀ d, w.getDocument id = .ok d ↔
      Recalls ((Session.start kinds first).run commands).history index d ∧ (d.id : Int) = id) ∧
    ((∀ d, Recalls ((Session.start kinds first).run commands).history index d → (d.id : Int) ≠ id) →
      w.getDocument id = .error (.unknownDocument id)) ∧
    (∃ b, w.isOpen id = .ok b ∧
      (b = true ↔ OpenSince ((Session.start kinds first).run commands).history index id)) ∧
    ∀ kinds' first' commands' w',
      ((Session.start kinds' first').run commands').group.workspaces[index]? = some w' →
      w'.disposed = false →
      ((Session.start kinds' first').run commands').history.filter (·.concerns index id)
        = ((Session.start kinds first).run commands).history.filter (·.concerns index id) →
      w'.getDocument id = w.getDocument id ∧ w'.isOpen id = w.isOpen id := by
  have hfound (d : Document) : w.getDocument id = .ok d ↔
      Recalls ((Session.start kinds first).run commands).history index d ∧ (d.id : Int) = id :=
    (Session.Remembers.run kinds first commands).getDocument_eq_ok_iff (.run kinds first commands)
      hw hlive
  obtain ⟨b, hb⟩ : ∃ b, w.isOpen id = .ok b := ⟨_, isOpen_of_live hlive⟩
  have hopen := ((Session.Remembers.run kinds first commands).isOpen_eq_ok_iff hw hlive b).mp hb
  refine ⟨hfound, ?_, ⟨b, hb, hopen⟩, ?_⟩
  · intro hnone
    refine (getDocument_eq_error_iff hlive).mpr ⟨rfl, fun d hd => ?_⟩
    obtain ⟨hrecalls, hid⟩ := (hfound d).mp hd
    exact hnone d hrecalls hid
  · intro kinds' first' commands' w' hw' hlive' hsame
    have hremembers := Session.Remembers.run kinds' first' commands'
    have hfound' (d : Document) : w'.getDocument id = .ok d ↔ w.getDocument id = .ok d := by
      rw [hremembers.getDocument_eq_ok_iff (.run kinds' first' commands') hw' hlive', hfound]
      refine and_congr_left fun hid => ?_
      rw [← recalls_filter hid, hsame, recalls_filter hid]
    constructor
    · cases hd : w.getDocument id with
      | ok d => exact (hfound' d).mpr hd
      | error e =>
        obtain ⟨rfl, hnone⟩ := (getDocument_eq_error_iff hlive).mp hd
        exact (getDocument_eq_error_iff hlive').mpr ⟨rfl, fun d => mt (hfound' d).mp (hnone d)⟩
    · rw [hb, hremembers.isOpen_eq_ok_iff hw' hlive' b, hopen, ← openSince_filter, ← hsame,
        openSince_filter]

/-- Commands on two workspaces: both get a document, and the second one is cleared. -/
def twoPages : List (Nat × Command) :=
  [(0, .addProject ⟨"Base", standardLanguage, []⟩), (0, .addDocument 1 "Page" (some ['a'])),
    (0, .openDocument 2), (1, .addProject ⟨"Base", standardLanguage, []⟩),
    (0, .withText 2 (some ['b'])), (1, .addDocument 3 "Page" (some ['c'])), (1, .clear)]

theorem answers_of_twoPages :
    let s := (Session.start [standardKind, standardKind] 1).run twoPages
    ∃ w, s.group.workspaces[0]? = some w ∧ w.disposed = false ∧
      Recalls s.history 0 ⟨2, 1, "Page", some ['b']⟩ ∧ OpenSince s.history 0 2 ∧
      w.getDocument 4 = .error (.unknownDocument 4) := by
  intro s
  have answers := answers_of_run [standardKind, standardKind] 1 twoPages 0 rfl rfl
  refine ⟨_, rfl, rfl, (((answers 2).1 _).mp rfl).1, ?_, (answers 4).2.1 fun d hrecalls hid => ?_⟩
  · obtain ⟨b, hb, hopen⟩ := (answers 2).2.2.1
    cases hb
    exact hopen.mp rfl
  · cases ((answers 4).1 d).mpr ⟨hrecalls, hid⟩

end Assay.Workspace
