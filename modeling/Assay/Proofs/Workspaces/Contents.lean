import Assay.Proofs.Workspaces.Effects
import Mathlib.Data.List.Nodup

/-!
# What a workspace stores

The projects of a workspace are in the order of their ids, and so are the documents of each project;
a document knows the project that it is in; and only documents that are stored are open. This is
what `Orderly` says, and every command keeps it (`Effect.orderly`), as long as the ids that are
issued are above all that are stored.

What a command does to the contents is said twice: by the ids of all that is stored
(`Effect.ids_perm`), and by the documents (`mem_documents_file`, `mem_documents_rewrite`).
-/

namespace Assay

/-- The ids of a project and its documents. -/
def Project.ids (p : Project) : List Nat := p.id :: p.documents.map Document.id

namespace Workspace

/-- The ids of all that a workspace stores. -/
def ids (w : Workspace) : List Nat := w.projects.flatMap Project.ids

/-- The contents of a workspace are in order. -/
structure Orderly (w : Workspace) : Prop where
  owned : ∀ p ∈ w.projects, ∀ d ∈ p.documents, d.projectId = p.id
  projects_ascending : (w.projects.map Project.id).Pairwise (· < ·)
  documents_ascending : ∀ p ∈ w.projects, (p.documents.map Document.id).Pairwise (· < ·)
  opened_stored : ∀ id ∈ w.opened, id ∈ w.documents.map Document.id
  released : w.disposed = true → w.projects = [] ∧ w.opened = []

variable {w w' : Workspace} {next next' : Nat} {c : Command} {answer : Except Error Answer}

theorem mem_documents_iff {d : Document} :
    d ∈ w.documents ↔ ∃ p ∈ w.projects, d ∈ p.documents :=
  List.mem_flatMap

theorem id_mem_ids_of_project {p : Project} (hp : p ∈ w.projects) : p.id ∈ w.ids :=
  List.mem_flatMap.mpr ⟨p, hp, List.mem_cons_self⟩

theorem id_mem_ids_of_document {p : Project} {d : Document} (hp : p ∈ w.projects)
    (hd : d ∈ p.documents) : d.id ∈ w.ids :=
  List.mem_flatMap.mpr ⟨p, hp, List.mem_cons_of_mem _ (List.mem_map_of_mem hd)⟩

/-- If no id is stored twice, no document has the id of another one. -/
theorem nodup_map_id_documents (h : w.ids.Nodup) : (w.documents.map Document.id).Nodup := by
  refine h.sublist ?_
  rw [documents, ids]
  generalize w.projects = projects
  induction projects with
  | nil => exact List.Sublist.slnil
  | cons p projects ih =>
    rw [List.flatMap_cons, List.map_append]
    exact (List.sublist_cons_self _ _).append ih

theorem Orderly.nodup_map_id_projects (h : w.Orderly) : (w.projects.map Project.id).Nodup :=
  h.projects_ascending.imp Nat.ne_of_lt

/-- Nothing is stored in a workspace that is disposed of. -/
theorem Orderly.live_of_mem (h : w.Orderly) {p : Project} (hp : p ∈ w.projects) :
    w.disposed = false := by
  by_contra hdisposed
  rw [(h.released (Bool.of_not_eq_false hdisposed)).1] at hp
  cases hp

/-- A document is in the project that it knows. -/
theorem Orderly.exists_project (h : w.Orderly) {d : Document} (hd : d ∈ w.documents) :
    ∃ p ∈ w.projects, d ∈ p.documents ∧ d.projectId = p.id := by
  obtain ⟨p, hp, hdp⟩ := mem_documents_iff.mp hd
  exact ⟨p, hp, hdp, h.owned p hp d hdp⟩

/-! ## Projects with their documents changed -/

section MapDocuments

variable {pid : Nat} {change : List Document → List Document}

theorem map_id_mapDocuments (w : Workspace) (pid : Nat) (change : List Document → List Document) :
    (w.mapDocuments pid change).projects.map Project.id = w.projects.map Project.id := by
  rw [mapDocuments, List.map_map]
  refine List.map_congr_left fun p _ => ?_
  by_cases hp : p.id = pid
  · rw [Function.comp_apply, if_pos hp]
  · rw [Function.comp_apply, if_neg hp]

/-- Projects keep what the documents keep. -/
theorem forall_mapDocuments {motive : Project → Prop} (h : ∀ p ∈ w.projects, motive p)
    (hchange : ∀ p ∈ w.projects, p.id = pid → motive { p with documents := change p.documents }) :
    ∀ p ∈ (w.mapDocuments pid change).projects, motive p := by
  refine List.forall_mem_map.mpr fun p hp => ?_
  by_cases hpid : p.id = pid
  · rw [if_pos hpid]
    exact hchange p hp hpid
  · rw [if_neg hpid]
    exact h p hp

theorem mem_documents_mapDocuments {d : Document} : d ∈ (w.mapDocuments pid change).documents ↔
    ∃ p ∈ w.projects, d ∈ if p.id = pid then change p.documents else p.documents := by
  rw [mem_documents_iff]
  constructor
  · rintro ⟨q, hq, hd⟩
    obtain ⟨p, hp, rfl⟩ := List.mem_map.mp hq
    refine ⟨p, hp, ?_⟩
    split at hd <;> simp_all
  · rintro ⟨p, hp, hd⟩
    refine ⟨_, List.mem_map_of_mem hp, ?_⟩
    split at hd <;> simp_all

/-- Only one project has the id. -/
theorem mapDocuments_split {p : Project} (hnodup : (w.projects.map Project.id).Nodup)
    (hp : p ∈ w.projects) (change : List Document → List Document) :
    ∃ before after, w.projects = before ++ p :: after ∧
      (w.mapDocuments p.id change).projects
        = before ++ { p with documents := change p.documents } :: after := by
  obtain ⟨before, after, hsplit⟩ := List.append_of_mem hp
  refine ⟨before, after, hsplit, ?_⟩
  rw [hsplit, List.map_append, List.map_cons] at hnodup
  have hother : ∀ q ∈ before ++ after, ¬ q.id = p.id := by
    intro q hq hid
    have hmem : p.id ∈ before.map Project.id ++ after.map Project.id := by
      rw [← List.map_append, ← hid]
      exact List.mem_map_of_mem hq
    exact (List.nodup_cons.mp (List.nodup_middle.mp hnodup)).1 hmem
  have hkept (l : List Project) (hl : ∀ q ∈ l, ¬ q.id = p.id) : l.map (fun q =>
      if q.id = p.id then { q with documents := change q.documents } else q) = l := by
    refine (List.map_congr_left fun q hq => if_neg (hl q hq)).trans (List.map_id l)
  rw [mapDocuments, hsplit, List.map_append, List.map_cons, if_pos rfl,
    hkept before fun q hq => hother q (List.mem_append_left _ hq),
    hkept after fun q hq => hother q (List.mem_append_right _ hq)]

end MapDocuments

/-! ## More projects -/

theorem map_id_numbered (next : Nat) (infos : List ProjectInfo) :
    (numbered next infos).map Project.id = List.range' next infos.length := by
  induction infos generalizing next with
  | nil => rfl
  | cons info infos ih => exact congrArg (next :: ·) (ih (next + 1))

theorem documents_of_mem_numbered {infos : List ProjectInfo} {p : Project}
    (h : p ∈ numbered next infos) : p.documents = [] := by
  induction infos generalizing next with
  | nil => cases h
  | cons info infos ih =>
    rcases List.mem_cons.mp h with rfl | h
    · rfl
    · exact ih h

theorem ids_numbered (next : Nat) (infos : List ProjectInfo) :
    (numbered next infos).flatMap Project.ids = List.range' next infos.length := by
  induction infos generalizing next with
  | nil => rfl
  | cons info infos ih => exact congrArg (next :: ·) (ih (next + 1))

theorem ids_extend (w : Workspace) (next : Nat) (infos : List ProjectInfo) :
    (w.extend next infos).ids = w.ids ++ List.range' next infos.length := by
  rw [ids, extend, List.flatMap_append, ids_numbered, ids]

theorem documents_extend (w : Workspace) (next : Nat) (infos : List ProjectInfo) :
    (w.extend next infos).documents = w.documents := by
  rw [documents, extend, List.flatMap_append, documents]
  have hnone : (numbered next infos).flatMap Project.documents = [] :=
    List.flatMap_eq_nil_iff.mpr fun p hp => documents_of_mem_numbered hp
  rw [hnone, List.append_nil]

theorem Orderly.extend (h : w.Orderly) (hbelow : ∀ id ∈ w.ids, id < next)
    {infos : List ProjectInfo} (hlive : infos ≠ [] → w.disposed = false) :
    (w.extend next infos).Orderly where
  owned := by
    intro p hp d hd
    rcases List.mem_append.mp hp with hp | hp
    · exact h.owned p hp d hd
    · rw [documents_of_mem_numbered hp] at hd
      cases hd
  projects_ascending := by
    rw [Workspace.extend, List.map_append, map_id_numbered]
    refine List.pairwise_append.mpr
      ⟨h.projects_ascending, List.pairwise_lt_range', fun id hid id' hid' => ?_⟩
    obtain ⟨p, hp, rfl⟩ := List.mem_map.mp hid
    have hlt := hbelow _ (id_mem_ids_of_project hp)
    rw [List.mem_range'_1] at hid'
    omega
  documents_ascending := by
    intro p hp
    rcases List.mem_append.mp hp with hp | hp
    · exact h.documents_ascending p hp
    · rw [documents_of_mem_numbered hp]
      exact List.Pairwise.nil
  opened_stored := by
    rw [documents_extend]
    exact h.opened_stored
  released := by
    intro hdisposed
    have hdisposed : w.disposed = true := hdisposed
    have hnone : infos = [] := by
      by_contra hsome
      exact absurd (hlive hsome) (by rw [hdisposed]; decide)
    rw [hnone, extend_nil]
    exact h.released hdisposed

/-! ## A document more -/

section File

variable {d : Document} {p : Project}

theorem mem_documents_file (hp : p ∈ w.projects) (hid : d.projectId = p.id) {e : Document} :
    e ∈ (w.file d).documents ↔ e ∈ w.documents ∨ e = d := by
  rw [file, mem_documents_mapDocuments, mem_documents_iff]
  constructor
  · rintro ⟨q, hq, he⟩
    split at he
    · rcases List.mem_append.mp he with he | he
      · exact Or.inl ⟨q, hq, he⟩
      · exact Or.inr (List.mem_singleton.mp he)
    · exact Or.inl ⟨q, hq, he⟩
  · rintro (⟨q, hq, he⟩ | rfl)
    · refine ⟨q, hq, ?_⟩
      split
      · exact List.mem_append_left _ he
      · exact he
    · refine ⟨p, hp, ?_⟩
      rw [if_pos hid.symm]
      exact List.mem_append_right _ List.mem_cons_self

theorem ids_file_perm (h : w.Orderly) (hp : p ∈ w.projects) (hid : d.projectId = p.id) :
    (w.file d).ids.Perm (w.ids ++ [d.id]) := by
  obtain ⟨before, after, hsplit, hfile⟩ :=
    mapDocuments_split h.nodup_map_id_projects hp (· ++ [d])
  have hp' : Project.ids { p with documents := p.documents ++ [d] } = p.ids ++ [d.id] := by
    rw [Project.ids, List.map_append, List.map_singleton, Project.ids, List.cons_append]
  rw [ids, file, hid, hfile, ids, hsplit, List.flatMap_append, List.flatMap_cons, hp',
    List.flatMap_append, List.flatMap_cons, List.append_assoc, List.append_assoc, List.append_assoc]
  exact (List.perm_append_comm.append_left _).append_left _

theorem Orderly.file (h : w.Orderly) (hbelow : ∀ id ∈ w.ids, id < d.id)
    (hlive : w.disposed = false) (hp : p ∈ w.projects) (hid : d.projectId = p.id) :
    (w.file d).Orderly where
  owned := by
    refine forall_mapDocuments h.owned fun q hq hpid e he => ?_
    rcases List.mem_append.mp he with he | he
    · exact h.owned q hq e he
    · rw [List.mem_singleton.mp he, hpid]
  projects_ascending := by
    rw [Workspace.file, map_id_mapDocuments]
    exact h.projects_ascending
  documents_ascending := by
    refine forall_mapDocuments h.documents_ascending fun q hq hpid => ?_
    show (List.map Document.id (q.documents ++ [d])).Pairwise (· < ·)
    rw [List.map_append, List.map_singleton]
    refine List.pairwise_append.mpr
      ⟨h.documents_ascending q hq, List.pairwise_singleton _ _, fun id hidq id' hid' => ?_⟩
    obtain ⟨e, he, rfl⟩ := List.mem_map.mp hidq
    rw [List.mem_singleton.mp hid']
    exact hbelow _ (id_mem_ids_of_document hq he)
  opened_stored := by
    intro id hopen
    obtain ⟨e, he, rfl⟩ := List.mem_map.mp (h.opened_stored id hopen)
    exact List.mem_map_of_mem ((mem_documents_file hp hid).mpr (Or.inl he))
  released hdisposed := absurd (hdisposed.symm.trans hlive) (by decide)

end File

/-! ## Another text -/

section Rewrite

variable {d : Document} {text : Option Text}

theorem map_id_rewritten (d : Document) (text : Option Text) (ds : List Document) :
    (ds.map fun other => if other.id = d.id then { d with text := text } else other).map Document.id
      = ds.map Document.id := by
  rw [List.map_map]
  refine List.map_congr_left fun other _ => ?_
  by_cases hid : other.id = d.id
  · rw [Function.comp_apply, if_pos hid, hid]
  · rw [Function.comp_apply, if_neg hid]

theorem ids_rewrite (w : Workspace) (d : Document) (text : Option Text) :
    (w.rewrite d text).ids = w.ids := by
  rw [ids, rewrite, mapDocuments, List.flatMap_map, ids]
  refine List.flatMap_congr fun p _ => ?_
  by_cases hp : p.id = d.projectId
  · rw [if_pos hp, Project.ids, map_id_rewritten, Project.ids]
  · rw [if_neg hp]

theorem map_id_documents_rewrite (w : Workspace) (d : Document) (text : Option Text) :
    (w.rewrite d text).documents.map Document.id = w.documents.map Document.id := by
  rw [documents, rewrite, mapDocuments, List.flatMap_map, List.map_flatMap, documents,
    List.map_flatMap]
  refine List.flatMap_congr fun p _ => ?_
  by_cases hp : p.id = d.projectId
  · rw [if_pos hp, map_id_rewritten]
  · rw [if_neg hp]

/-- Only the document with the id changes. -/
theorem mem_documents_rewrite (h : w.Orderly) (hnodup : w.ids.Nodup) (hd : d ∈ w.documents)
    {e : Document} : e ∈ (w.rewrite d text).documents ↔
      e ∈ w.documents ∧ e.id ≠ d.id ∨ e = { d with text := text } := by
  have hsame {e : Document} (he : e ∈ w.documents) (hid : e.id = d.id) : e = d :=
    List.inj_on_of_nodup_map (nodup_map_id_documents hnodup) he hd hid
  obtain ⟨p, hp, hdp, hpid⟩ := h.exists_project hd
  rw [rewrite, mem_documents_mapDocuments]
  constructor
  · rintro ⟨q, hq, he⟩
    split at he
    · obtain ⟨other, hother, rfl⟩ := List.mem_map.mp he
      split
      · exact Or.inr rfl
      · next hne => exact Or.inl ⟨mem_documents_iff.mpr ⟨q, hq, hother⟩, hne⟩
    · next hne =>
      have hmem := mem_documents_iff.mpr ⟨q, hq, he⟩
      refine Or.inl ⟨hmem, fun hid => hne ?_⟩
      rw [← hsame hmem hid, h.owned q hq e he]
  · rintro (⟨he, hne⟩ | rfl)
    · obtain ⟨q, hq, he⟩ := mem_documents_iff.mp he
      refine ⟨q, hq, ?_⟩
      split
      · exact List.mem_map.mpr ⟨e, he, if_neg hne⟩
      · exact he
    · refine ⟨p, hp, ?_⟩
      rw [if_pos hpid.symm]
      exact List.mem_map.mpr ⟨d, hdp, if_pos rfl⟩

theorem Orderly.rewrite (h : w.Orderly) (hlive : w.disposed = false) (d : Document)
    (text : Option Text) : (w.rewrite d text).Orderly where
  owned := by
    refine forall_mapDocuments h.owned fun q hq hpid e he => ?_
    obtain ⟨other, hother, rfl⟩ := List.mem_map.mp he
    split
    · exact hpid.symm
    · exact h.owned q hq other hother
  projects_ascending := by
    rw [Workspace.rewrite, map_id_mapDocuments]
    exact h.projects_ascending
  documents_ascending := by
    refine forall_mapDocuments h.documents_ascending fun q hq hpid => ?_
    rw [map_id_rewritten]
    exact h.documents_ascending q hq
  opened_stored := by
    rw [map_id_documents_rewrite]
    exact h.opened_stored
  released hdisposed := absurd (hdisposed.symm.trans hlive) (by decide)

end Rewrite

/-! ## Commands -/

theorem Orderly.of_released (h : w.projects = [] ∧ w.opened = []) : w.Orderly where
  owned p hp := by
    rw [h.1] at hp
    cases hp
  projects_ascending := by
    rw [h.1]
    exact List.Pairwise.nil
  documents_ascending p hp := by
    rw [h.1] at hp
    cases hp
  opened_stored id hid := by
    rw [h.2] at hid
    cases hid
  released _ := h

theorem Orderly.fresh (kind : String) : (fresh kind).Orderly := .of_released ⟨rfl, rfl⟩

theorem Orderly.released_dispose (h : w.Orderly) :
    w.dispose.projects = [] ∧ w.dispose.opened = [] := by
  unfold dispose
  split
  · next hdisposed => exact h.released hdisposed
  · exact ⟨rfl, rfl⟩

/-- Only what is open changes. -/
theorem Orderly.of_opened (h : w.Orderly) (hlive : w.disposed = false) {opened : List Nat}
    (hopened : ∀ id ∈ opened, id ∈ w.documents.map Document.id) :
    { w with opened := opened }.Orderly where
  owned := h.owned
  projects_ascending := h.projects_ascending
  documents_ascending := h.documents_ascending
  opened_stored := hopened
  released hdisposed := absurd (hdisposed.symm.trans hlive) (by decide)

/-- **Every command keeps the contents in order**, as long as the next id is above all that are
stored. -/
theorem Effect.orderly (heffect : Effect w next c answer w' next') (h : w.Orderly)
    (hbelow : ∀ id ∈ w.ids, id < next) : w'.Orderly := by
  cases heffect with
  | refused | listed | lookedAtProject | lookedAtDocument | asked | entered => exact h
  | addedProject hlive => exact h.extend hbelow fun _ => hlive
  | addedProjects hfront hmade =>
    refine h.extend hbelow fun hsome => ?_
    obtain ⟨info, hinfo⟩ := List.exists_mem_of_ne_nil _ hsome
    exact (hmade info hinfo).1
  | addedDocument hproject =>
    exact h.file hbelow (live_of_getProject hproject) (mem_of_getProject hproject).1 rfl
  | rewrote hd => exact h.rewrite (live_of_getDocument hd) _ _
  | opened hd =>
    refine h.of_opened (live_of_getDocument hd) fun id hid => ?_
    split at hid
    · exact h.opened_stored id hid
    · rcases List.mem_append.mp hid with hid | hid
      · exact h.opened_stored id hid
      · rw [List.mem_singleton.mp hid]
        exact List.mem_map_of_mem (mem_of_getDocument hd).1
  | closed hd =>
    exact h.of_opened (live_of_getDocument hd) fun id hid =>
      h.opened_stored id (List.mem_of_mem_filter hid)
  | cleared => exact .of_released ⟨rfl, rfl⟩
  | released => exact .of_released h.released_dispose

/-- **A command stores something under the ids from the next one on, or changes no id, or leaves
nothing stored.** -/
theorem Effect.ids_perm (heffect : Effect w next c answer w' next') (h : w.Orderly) :
    ∃ count, next' = next + count ∧ (w'.ids.Perm (w.ids ++ List.range' next count) ∨
      w'.ids = [] ∧ count = 0) := by
  have hsame {v : Workspace} (hv : v.ids = w.ids) : v.ids.Perm (w.ids ++ List.range' next 0) := by
    rw [hv, List.range'_zero, List.append_nil]
  cases heffect with
  | refused | listed | lookedAtProject | lookedAtDocument | asked | entered =>
    exact ⟨0, rfl, Or.inl (hsame rfl)⟩
  | addedProject => exact ⟨1, rfl, Or.inl (.of_eq (ids_extend w next _))⟩
  | addedProjects => exact ⟨_, rfl, Or.inl (.of_eq (ids_extend w next _))⟩
  | addedDocument hproject =>
    exact ⟨1, rfl, Or.inl (ids_file_perm h (mem_of_getProject hproject).1 rfl)⟩
  | rewrote => exact ⟨0, rfl, Or.inl (hsame (ids_rewrite w _ _))⟩
  | opened => exact ⟨0, rfl, Or.inl (hsame rfl)⟩
  | closed => exact ⟨0, rfl, Or.inl (hsame rfl)⟩
  | cleared => exact ⟨0, rfl, Or.inr ⟨rfl, rfl⟩⟩
  | released => exact ⟨0, rfl, Or.inr ⟨by rw [ids, h.released_dispose.1]; rfl, rfl⟩⟩

end Workspace

end Assay
