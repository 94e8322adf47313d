import Assay.Text.Basic

/-!
# Workspaces

A workspace holds the projects of one case and their documents, in the order of their ids, and knows
which documents are open. Disposing of it releases all of that, and it cannot be used any more.

Ids are handed out by a counter that all workspaces share: every operation takes the next free id
and gives back the one that is free after it. An operation that fails changes nothing; adding
several projects is the exception, which keeps those that it has added before it fails.
-/

namespace Assay

/-! ## Documents and projects -/

/-- A document of a project. -/
structure Document where
  id : Nat
  projectId : Nat
  name : String
  /-- A text may be taken away again. -/
  text : Option Text
  deriving DecidableEq, Repr, Inhabited

/-- What a project is added with. -/
structure ProjectInfo where
  name : String
  language : String
  references : List String
  deriving DecidableEq, Repr, Inhabited

/-- The language of a project unless another one is given. -/
def standardLanguage : String := "AL"

/-- A project with its documents in the order of their ids. -/
structure Project where
  id : Nat
  name : String
  language : String
  references : List String
  documents : List Document
  deriving DecidableEq, Repr, Inhabited

/-- A workspace. -/
structure Workspace where
  kind : String
  projects : List Project
  opened : List Nat
  disposed : Bool
  deriving DecidableEq, Repr, Inhabited

namespace Workspace

/-- The kind of a workspace unless another one is given. -/
def standardKind : String := "Custom"

/-- A workspace without projects. -/
def fresh (kind : String) : Workspace := ⟨kind, [], [], false⟩

/-! ## Errors -/

/-- Why an operation fails. -/
inductive Error where
  | disposed
  | unknownProject (id : Int)
  | unknownDocument (id : Int)
  | emptyProjectName
  | emptyDocumentName
  | missingText
  deriving DecidableEq, Repr

/-- What is wrong, in words. -/
def Error.message : Error → String
  | .disposed => "Workspace has been disposed"
  | .unknownProject id => "Unknown project id " ++ toString id
  | .unknownDocument id => "Unknown document id " ++ toString id
  | .emptyProjectName => "Project name must not be empty"
  | .emptyDocumentName => "Document name must not be empty"
  | .missingText => "Document text must not be None"

/-- Whether an error is about the state of the workspace and not about an argument. -/
def Error.isAboutState : Error → Bool
  | .disposed | .unknownProject _ | .unknownDocument _ => true
  | .emptyProjectName | .emptyDocumentName | .missingText => false

/-! ## Looking -/

/-- The documents of all projects. -/
def documents (w : Workspace) : List Document := w.projects.flatMap Project.documents

/-- The workspace, if it can still be used. -/
def alive (w : Workspace) : Except Error Workspace :=
  if w.disposed then .error .disposed else .ok w

/-- All projects, in the order of their ids. -/
def listProjects (w : Workspace) : Except Error (List Project) := do
  let w ← w.alive
  return w.projects

/-- The project with an id. -/
def getProject (w : Workspace) (id : Int) : Except Error Project := do
  let w ← w.alive
  match w.projects.find? fun p => (p.id : Int) = id with
  | some p => return p
  | none => throw (.unknownProject id)

/-- The document with an id. -/
def getDocument (w : Workspace) (id : Int) : Except Error Document := do
  let w ← w.alive
  match w.documents.find? fun d => (d.id : Int) = id with
  | some d => return d
  | none => throw (.unknownDocument id)

/-- Whether the document with an id is open. -/
def isOpen (w : Workspace) (id : Int) : Except Error Bool := do
  let w ← w.alive
  return w.opened.any fun i => (i : Int) = id

/-! ## Changing -/

/-- Adds a project. -/
def addProject (w : Workspace) (next : Nat) (info : ProjectInfo) :
    Except Error (Project × Workspace × Nat) := do
  let w ← w.alive
  if info.name = "" then throw .emptyProjectName
  let p : Project := ⟨next, info.name, info.language, info.references, []⟩
  return (p, { w with projects := w.projects ++ [p] }, next + 1)

/-- Adds projects one by one until one cannot be added. -/
def addProjects (w : Workspace) (next : Nat) :
    List ProjectInfo → Except Error (List Project) × Workspace × Nat
  | [] => (.ok [], w, next)
  | info :: infos =>
    match w.addProject next info with
    | .error e => (.error e, w, next)
    | .ok (p, w, next) =>
      let (added, w, next) := w.addProjects next infos
      (added.map (p :: ·), w, next)

/-- The workspace with the documents of a project changed. -/
def mapDocuments (w : Workspace) (projectId : Nat) (change : List Document → List Document) :
    Workspace :=
  { w with projects := w.projects.map fun p =>
      if p.id = projectId then { p with documents := change p.documents } else p }

/-- Adds a document to a project. Its name and text are checked before anything else. -/
def addDocument (w : Workspace) (next : Nat) (projectId : Int) (name : String)
    (text : Option Text) : Except Error (Document × Workspace × Nat) := do
  if name = "" then throw .emptyDocumentName
  if text.isNone then throw .missingText
  let p ← w.getProject projectId
  let d : Document := ⟨next, p.id, name, text⟩
  return (d, w.mapDocuments p.id (· ++ [d]), next + 1)

/-- Replaces the text of a document. -/
def withText (w : Workspace) (id : Int) (text : Option Text) :
    Except Error (Document × Workspace) := do
  let d ← w.getDocument id
  let changed := { d with text := text }
  return (changed, w.mapDocuments d.projectId fun ds =>
    ds.map fun other => if other.id = d.id then changed else other)

/-- Opens a document. -/
def openDocument (w : Workspace) (id : Int) : Except Error Workspace := do
  let d ← w.getDocument id
  return { w with opened := if d.id ∈ w.opened then w.opened else w.opened ++ [d.id] }

/-- Closes a document. -/
def closeDocument (w : Workspace) (id : Int) : Except Error Workspace := do
  let d ← w.getDocument id
  return { w with opened := w.opened.filter (· ≠ d.id) }

/-- Removes all projects and documents. -/
def clear (w : Workspace) : Except Error Workspace := do
  let w ← w.alive
  return { w with projects := [], opened := [] }

/-- Releases everything; a second time nothing is left to release. -/
def dispose (w : Workspace) : Workspace :=
  if w.disposed then w else { w with projects := [], opened := [], disposed := true }

theorem dispose_disposed (w : Workspace) : w.dispose.disposed = true := by
  unfold dispose
  split <;> simp_all

end Workspace

/-! ## Commands -/

namespace Workspace

/-- What can be asked of a workspace. -/
inductive Command where
  | listProjects
  | addProject (info : ProjectInfo)
  | addProjects (infos : List ProjectInfo)
  | getProject (id : Int)
  | addDocument (projectId : Int) (name : String) (text : Option Text)
  | getDocument (id : Int)
  | withText (id : Int) (text : Option Text)
  | openDocument (id : Int)
  | close (id : Int)
  | isOpen (id : Int)
  | clear
  | dispose
  /-- Enters a block that disposes of the workspace at its end. -/
  | enter
  /-- Leaves such a block. -/
  | leave
  deriving Repr

/-- What a command answers. -/
inductive Answer where
  | nothing
  | project (p : Project)
  | projects (ps : List Project)
  | document (d : Document)
  | flag (b : Bool)
  deriving Repr

/-- What a command answers, and the state after it. -/
def perform (w : Workspace) (next : Nat) : Command → Except Error Answer × Workspace × Nat
  | .listProjects => (w.listProjects.map .projects, w, next)
  | .addProject info =>
    match w.addProject next info with
    | .ok (p, w, next) => (.ok (.project p), w, next)
    | .error e => (.error e, w, next)
  | .addProjects infos =>
    let (added, w, next) := w.addProjects next infos
    (added.map .projects, w, next)
  | .getProject id => ((w.getProject id).map .project, w, next)
  | .addDocument projectId name text =>
    match w.addDocument next projectId name text with
    | .ok (d, w, next) => (.ok (.document d), w, next)
    | .error e => (.error e, w, next)
  | .getDocument id => ((w.getDocument id).map .document, w, next)
  | .withText id text =>
    match w.withText id text with
    | .ok (d, w) => (.ok (.document d), w, next)
    | .error e => (.error e, w, next)
  | .openDocument id => quiet (w.openDocument id)
  | .close id => quiet (w.closeDocument id)
  | .isOpen id => ((w.isOpen id).map .flag, w, next)
  | .clear => quiet w.clear
  | .dispose => (.ok .nothing, w.dispose, next)
  | .enter => (w.alive.map fun _ => .flag true, w, next)
  | .leave => (.ok .nothing, w.dispose, next)
where
  /-- A change without an answer. -/
  quiet : Except Error Workspace → Except Error Answer × Workspace × Nat
    | .ok w => (.ok .nothing, w, next)
    | .error e => (.error e, w, next)

/-- Several workspaces with the counter that they share. -/
structure Group where
  workspaces : List Workspace
  next : Nat

/-- Performs a command on the workspace with an index. -/
def Group.perform (g : Group) (index : Nat) (command : Command) :
    Option (Except Error Answer × Group) :=
  (g.workspaces[index]?).map fun w =>
    let (answer, w, next) := w.perform g.next command
    (answer, ⟨g.workspaces.set index w, next⟩)

end Workspace

end Assay
