import Assay.Fault
import Mathlib.Data.List.Nodup

/-!
# What commands do to a workspace

A command is refused, looks at the workspace, adds to it, gives a document another text, changes
which documents are open, or empties the workspace. `Effect` lists these cases, each with what the
command needs and answers, and `effect_perform` says that there is no other one. What holds of every
state of a workspace is then shown case by case, and no operation is opened a second time.

Projects and documents are looked up by their ids. What is found is stored under the id
(`mem_of_getProject`, `mem_of_getDocument`), and where no id is stored twice, all that is stored is
found (`getProject_of_mem`, `getDocument_of_mem`).
-/

namespace Assay

/-- The project that is added with an id. -/
def ProjectInfo.project (info : ProjectInfo) (id : Nat) : Project :=
  ⟨id, info.name, info.language, info.references, []⟩

namespace Workspace

/-! ## States after a command -/

/-- Projects that are added one after the other, with the ids from `next` on. -/
def numbered (next : Nat) : List ProjectInfo → List Project
  | [] => []
  | info :: infos => info.project next :: numbered (next + 1) infos

/-- The workspace with projects more. -/
def extend (w : Workspace) (next : Nat) (infos : List ProjectInfo) : Workspace :=
  { w with projects := w.projects ++ numbered next infos }

/-- The workspace with a document more. -/
def file (w : Workspace) (d : Document) : Workspace := w.mapDocuments d.projectId (· ++ [d])

/-- The workspace with the text of a document replaced. -/
def rewrite (w : Workspace) (d : Document) (text : Option Text) : Workspace :=
  w.mapDocuments d.projectId fun ds =>
    ds.map fun other => if other.id = d.id then { d with text := text } else other

variable {w w' : Workspace} {next : Nat} {id : Int}

theorem extend_nil (w : Workspace) (next : Nat) : w.extend next [] = w := by
  rw [extend, numbered, List.append_nil]

theorem extend_cons (w : Workspace) (next : Nat) (info : ProjectInfo) (infos : List ProjectInfo) :
    w.extend next (info :: infos) = (w.extend next [info]).extend (next + 1) infos := by
  simp only [extend, numbered, List.append_assoc, List.singleton_append]

/-! ## Looking -/

theorem alive_of_disposed (h : w.disposed = true) : w.alive = .error .disposed := if_pos h

theorem alive_of_live (h : w.disposed = false) : w.alive = .ok w := by
  rw [alive, h]
  rfl

theorem eq_of_alive (h : w.alive = .ok w') : w.disposed = false ∧ w' = w := by
  unfold alive at h
  split at h
  · cases h
  · next hlive => exact ⟨Bool.of_not_eq_true hlive, (Except.ok.inj h).symm⟩

/-- Where no number is given twice, the item with a number is found by it. -/
theorem find?_of_mem {α : Type} {number : α → Nat} {items : List α} {x : α}
    (hnodup : (items.map number).Nodup) (hx : x ∈ items) (hid : (number x : Int) = id) :
    items.find? (fun y => (number y : Int) = id) = some x := by
  subst hid
  induction items with
  | nil => cases hx
  | cons y items ih =>
    rw [List.map_cons, List.nodup_cons] at hnodup
    rcases List.mem_cons.mp hx with rfl | hx
    · exact List.find?_cons_of_pos (decide_eq_true rfl)
    · have hne : number y ≠ number x := fun h => hnodup.1 (h ▸ List.mem_map_of_mem hx)
      rw [List.find?_cons_of_neg (by simpa using mt Int.ofNat_inj.mp hne)]
      exact ih hnodup.2 hx

theorem getProject_of_live (h : w.disposed = false) : w.getProject id
    = match w.projects.find? fun p => (p.id : Int) = id with
      | some p => .ok p
      | none => .error (.unknownProject id) := by
  rw [getProject, alive_of_live h]
  rfl

theorem getDocument_of_live (h : w.disposed = false) : w.getDocument id
    = match w.documents.find? fun d => (d.id : Int) = id with
      | some d => .ok d
      | none => .error (.unknownDocument id) := by
  rw [getDocument, alive_of_live h]
  rfl

theorem isOpen_of_live (h : w.disposed = false) :
    w.isOpen id = .ok (w.opened.any fun i => (i : Int) = id) := by
  rw [isOpen, alive_of_live h]
  rfl

theorem live_of_getProject {p : Project} (h : w.getProject id = .ok p) : w.disposed = false := by
  by_contra hdisposed
  rw [getProject, alive_of_disposed (Bool.of_not_eq_false hdisposed)] at h
  cases h

theorem live_of_getDocument {d : Document} (h : w.getDocument id = .ok d) :
    w.disposed = false := by
  by_contra hdisposed
  rw [getDocument, alive_of_disposed (Bool.of_not_eq_false hdisposed)] at h
  cases h

/-- What is found under an id is stored and has the id. -/
theorem mem_of_getProject {p : Project} (h : w.getProject id = .ok p) :
    p ∈ w.projects ∧ (p.id : Int) = id := by
  rw [getProject_of_live (live_of_getProject h)] at h
  split at h
  · next q hq =>
    cases h
    exact ⟨List.mem_of_find?_eq_some hq, by simpa using List.find?_some hq⟩
  · cases h

theorem mem_of_getDocument {d : Document} (h : w.getDocument id = .ok d) :
    d ∈ w.documents ∧ (d.id : Int) = id := by
  rw [getDocument_of_live (live_of_getDocument h)] at h
  split at h
  · next e he =>
    cases h
    exact ⟨List.mem_of_find?_eq_some he, by simpa using List.find?_some he⟩
  · cases h

/-- Where no id is stored twice, what is stored is found. -/
theorem getProject_of_mem {p : Project} (hlive : w.disposed = false)
    (hnodup : (w.projects.map Project.id).Nodup) (hp : p ∈ w.projects) (hid : (p.id : Int) = id) :
    w.getProject id = .ok p := by
  rw [getProject_of_live hlive, find?_of_mem hnodup hp hid]

theorem getDocument_of_mem {d : Document} (hlive : w.disposed = false)
    (hnodup : (w.documents.map Document.id).Nodup) (hd : d ∈ w.documents)
    (hid : (d.id : Int) = id) : w.getDocument id = .ok d := by
  rw [getDocument_of_live hlive, find?_of_mem hnodup hd hid]

/-! ## Changing -/

theorem listProjects_of_ok {ps : List Project} (h : w.listProjects = .ok ps) :
    w.disposed = false ∧ ps = w.projects := by
  obtain ⟨v, hv, hps⟩ := exists_of_bind_eq_ok h
  obtain ⟨hlive, rfl⟩ := eq_of_alive hv
  exact ⟨hlive, (Except.ok.inj hps).symm⟩

/-- A project is added to a workspace that is not disposed of, if it has a name. -/
theorem addProject_eq_ok_iff {info : ProjectInfo} {r : Project × Workspace × Nat} :
    w.addProject next info = .ok r ↔ w.disposed = false ∧ info.name ≠ "" ∧
      r = (info.project next, w.extend next [info], next + 1) := by
  cases hdisposed : w.disposed with
  | true =>
    rw [addProject, alive_of_disposed hdisposed]
    simp [bind, Except.bind]
  | false =>
    rw [addProject, alive_of_live hdisposed]
    by_cases hname : info.name = ""
    · simp [hname, bind, Except.bind, throw, throwThe, MonadExceptOf.throw]
    · simp only [hname, if_false, ne_eq, not_false_eq_true, true_and]
      constructor
      · rintro ⟨⟩
        rfl
      · rintro rfl
        rfl

/-- Projects are added one by one, up to the first that cannot be. -/
theorem addProjects_eq (w : Workspace) (next : Nat) (infos : List ProjectInfo) :
    ∃ made, made <+: infos ∧ (∀ info ∈ made, w.disposed = false ∧ info.name ≠ "") ∧
      (w.addProjects next infos).2 = (w.extend next made, next + made.length) ∧
      ((w.addProjects next infos).1 = .ok (numbered next infos) ∧ made = infos ∨
        ∃ e, (w.addProjects next infos).1 = .error e) := by
  induction infos generalizing w next with
  | nil => exact ⟨[], List.prefix_rfl, by simp, by rw [extend_nil]; rfl, Or.inl ⟨rfl, rfl⟩⟩
  | cons info infos ih =>
    cases hfirst : w.addProject next info with
    | error e =>
      refine ⟨[], List.nil_prefix, by simp, ?_, Or.inr ⟨e, ?_⟩⟩
      · rw [addProjects, hfirst, extend_nil]
        rfl
      · rw [addProjects, hfirst]
    | ok r =>
      obtain ⟨hlive, hname, rfl⟩ := addProject_eq_ok_iff.mp hfirst
      obtain ⟨made, hfront, hmade, hstate, hanswer⟩ := ih (w.extend next [info]) (next + 1)
      refine ⟨info :: made, List.cons_prefix_cons.mpr ⟨rfl, hfront⟩, ?_, ?_, ?_⟩
      · intro other hother
        rcases List.mem_cons.mp hother with rfl | hother
        · exact ⟨hlive, hname⟩
        · exact hmade other hother
      · simp only [addProjects, hfirst]
        refine hstate.trans ?_
        rw [extend_cons w next info made, List.length_cons, Nat.add_right_comm, Nat.add_assoc]
      · simp only [addProjects, hfirst]
        rcases hanswer with ⟨hanswer, rfl⟩ | ⟨e, he⟩
        · exact Or.inl ⟨by rw [hanswer]; rfl, rfl⟩
        · exact Or.inr ⟨e, by rw [he]; rfl⟩

/-- A document needs a name, a text, and a project that is stored. -/
theorem addDocument_of_ok {projectId : Int} {name : String} {text : Option Text}
    {r : Document × Workspace × Nat} (h : w.addDocument next projectId name text = .ok r) :
    ∃ p t, name ≠ "" ∧ text = some t ∧ w.getProject projectId = .ok p ∧
      r = (⟨next, p.id, name, text⟩, w.file ⟨next, p.id, name, text⟩, next + 1) := by
  unfold addDocument at h
  by_cases hname : name = ""
  · rw [if_pos hname] at h
    cases h
  · rw [if_neg hname] at h
    cases text with
    | none => cases h
    | some t =>
      obtain ⟨p, hp, hr⟩ := exists_of_bind_eq_ok h
      exact ⟨p, t, hname, rfl, hp, (Except.ok.inj hr).symm⟩

theorem withText_of_ok {text : Option Text} {r : Document × Workspace}
    (h : w.withText id text = .ok r) : ∃ d, w.getDocument id = .ok d ∧
      r = ({ d with text := text }, w.rewrite d text) := by
  obtain ⟨d, hd, hr⟩ := exists_of_bind_eq_ok h
  exact ⟨d, hd, (Except.ok.inj hr).symm⟩

theorem openDocument_of_ok (h : w.openDocument id = .ok w') : ∃ d, w.getDocument id = .ok d ∧
    w' = { w with opened := if d.id ∈ w.opened then w.opened else w.opened ++ [d.id] } := by
  obtain ⟨d, hd, hw⟩ := exists_of_bind_eq_ok h
  exact ⟨d, hd, (Except.ok.inj hw).symm⟩

theorem closeDocument_of_ok (h : w.closeDocument id = .ok w') : ∃ d, w.getDocument id = .ok d ∧
    w' = { w with opened := w.opened.filter (· ≠ d.id) } := by
  obtain ⟨d, hd, hw⟩ := exists_of_bind_eq_ok h
  exact ⟨d, hd, (Except.ok.inj hw).symm⟩

theorem clear_of_ok (h : w.clear = .ok w') :
    w.disposed = false ∧ w' = { w with projects := [], opened := [] } := by
  obtain ⟨v, hv, hw⟩ := exists_of_bind_eq_ok h
  obtain ⟨hlive, rfl⟩ := eq_of_alive hv
  exact ⟨hlive, (Except.ok.inj hw).symm⟩

/-! ## The effect of a command -/

/-- What a command on a workspace answers, the workspace after it, and the id that is free then. -/
inductive Effect (w : Workspace) (next : Nat) :
    Command → Except Error Answer → Workspace → Nat → Prop
  | refused {c : Command} {e : Error} (hc : ∀ infos, c ≠ .addProjects infos) :
      Effect w next c (.error e) w next
  | listed (hlive : w.disposed = false) :
      Effect w next .listProjects (.ok (.projects w.projects)) w next
  | lookedAtProject {id : Int} {p : Project} (h : w.getProject id = .ok p) :
      Effect w next (.getProject id) (.ok (.project p)) w next
  | lookedAtDocument {id : Int} {d : Document} (h : w.getDocument id = .ok d) :
      Effect w next (.getDocument id) (.ok (.document d)) w next
  | asked {id : Int} {b : Bool} (h : w.isOpen id = .ok b) :
      Effect w next (.isOpen id) (.ok (.flag b)) w next
  | entered (hlive : w.disposed = false) : Effect w next .enter (.ok (.flag true)) w next
  | addedProject {info : ProjectInfo} (hlive : w.disposed = false) (hname : info.name ≠ "") :
      Effect w next (.addProject info) (.ok (.project (info.project next)))
        (w.extend next [info]) (next + 1)
  /-- Of several projects those are added that come before the first that cannot be. -/
  | addedProjects {infos made : List ProjectInfo} {answer : Except Error Answer}
      (hfront : made <+: infos) (hmade : ∀ info ∈ made, w.disposed = false ∧ info.name ≠ "")
      (hanswer : answer = .ok (.projects (numbered next infos)) ∧ made = infos ∨
        ∃ e, answer = .error e) :
      Effect w next (.addProjects infos) answer (w.extend next made) (next + made.length)
  | addedDocument {projectId : Int} {name : String} {t : Text} {p : Project}
      (hproject : w.getProject projectId = .ok p) (hname : name ≠ "") :
      Effect w next (.addDocument projectId name (some t))
        (.ok (.document ⟨next, p.id, name, some t⟩)) (w.file ⟨next, p.id, name, some t⟩) (next + 1)
  | rewrote {id : Int} {text : Option Text} {d : Document} (h : w.getDocument id = .ok d) :
      Effect w next (.withText id text) (.ok (.document { d with text := text }))
        (w.rewrite d text) next
  | opened {id : Int} {d : Document} (h : w.getDocument id = .ok d) :
      Effect w next (.openDocument id) (.ok .nothing)
        { w with opened := if d.id ∈ w.opened then w.opened else w.opened ++ [d.id] } next
  | closed {id : Int} {d : Document} (h : w.getDocument id = .ok d) :
      Effect w next (.close id) (.ok .nothing) { w with opened := w.opened.filter (· ≠ d.id) } next
  | cleared (hlive : w.disposed = false) :
      Effect w next .clear (.ok .nothing) { w with projects := [], opened := [] } next
  | released {c : Command} (hc : c = .dispose ∨ c = .leave) :
      Effect w next c (.ok .nothing) w.dispose next

/-- What is refused changes nothing, unless some of several projects were added. -/
theorem Effect.eq_of_error {c : Command} {e : Error} {w' : Workspace} {next' : Nat}
    (h : Effect w next c (.error e) w' next') (hc : ∀ infos, c ≠ .addProjects infos) :
    w' = w ∧ next' = next := by
  cases h with
  | refused => exact ⟨rfl, rfl⟩
  | addedProjects => exact absurd rfl (hc _)

/-- **A command has one of the listed effects.** -/
theorem effect_perform (w : Workspace) (next : Nat) (c : Command) :
    Effect w next c (w.perform next c).1 (w.perform next c).2.1 (w.perform next c).2.2 := by
  cases c with
  | listProjects =>
    rw [perform]
    cases h : w.listProjects with
    | error e => exact .refused nofun
    | ok ps =>
      obtain ⟨hlive, rfl⟩ := listProjects_of_ok h
      exact .listed hlive
  | addProject info =>
    rw [perform]
    cases h : w.addProject next info with
    | error e => exact .refused nofun
    | ok r =>
      obtain ⟨hlive, hname, rfl⟩ := addProject_eq_ok_iff.mp h
      exact .addedProject hlive hname
  | addProjects infos =>
    obtain ⟨made, hfront, hmade, hstate, hanswer⟩ := addProjects_eq w next infos
    simp only [perform, hstate]
    refine .addedProjects hfront hmade ?_
    rcases hanswer with ⟨h, rfl⟩ | ⟨e, h⟩
    · exact Or.inl ⟨by rw [h]; rfl, rfl⟩
    · exact Or.inr ⟨e, by rw [h]; rfl⟩
  | getProject id =>
    rw [perform]
    cases h : w.getProject id with
    | error e => exact .refused nofun
    | ok p => exact .lookedAtProject h
  | addDocument projectId name text =>
    rw [perform]
    cases h : w.addDocument next projectId name text with
    | error e => exact .refused nofun
    | ok r =>
      obtain ⟨p, t, hname, rfl, hproject, rfl⟩ := addDocument_of_ok h
      exact .addedDocument hproject hname
  | getDocument id =>
    rw [perform]
    cases h : w.getDocument id with
    | error e => exact .refused nofun
    | ok d => exact .lookedAtDocument h
  | withText id text =>
    rw [perform]
    cases h : w.withText id text with
    | error e => exact .refused nofun
    | ok r =>
      obtain ⟨d, hd, rfl⟩ := withText_of_ok h
      exact .rewrote hd
  | openDocument id =>
    rw [perform]
    cases h : w.openDocument id with
    | error e => exact .refused nofun
    | ok v =>
      obtain ⟨d, hd, rfl⟩ := openDocument_of_ok h
      exact .opened hd
  | close id =>
    rw [perform]
    cases h : w.closeDocument id with
    | error e => exact .refused nofun
    | ok v =>
      obtain ⟨d, hd, rfl⟩ := closeDocument_of_ok h
      exact .closed hd
  | isOpen id =>
    rw [perform]
    cases h : w.isOpen id with
    | error e => exact .refused nofun
    | ok b => exact .asked h
  | clear =>
    rw [perform]
    cases h : w.clear with
    | error e => exact .refused nofun
    | ok v =>
      obtain ⟨hlive, rfl⟩ := clear_of_ok h
      exact .cleared hlive
  | dispose => exact .released (Or.inl rfl)
  | enter =>
    rw [perform]
    cases h : w.alive with
    | error e => exact .refused nofun
    | ok v => exact .entered (eq_of_alive h).1
  | leave => exact .released (Or.inr rfl)

end Workspace

end Assay
