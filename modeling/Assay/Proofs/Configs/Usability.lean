import Assay.Proofs.Configs.Complaints
import Assay.Proofs.Fixtures.Outcomes
import Assay.Script

/-!
# What can be done with a configuration

Data is looked at key by key when a configuration is made of it. What the settings are used for has
demands of its own on them, which are made where they are used: delimiters must not be empty or
equal, and project and document need names. So a configuration can be made and still be of no use.
That shows at once in everything that needs the setting, and it is the only way in which a
configuration can be of no use (`Config.usable_if_told_and_named`).

What an assertion ends with is looked at here, and not whether it ends: that is up to the engine and
to the components, which can keep a run from being cut off.
-/

namespace Assay

/-- A limit is greater than zero. -/
def TimeLimit.IsPositive : TimeLimit → Prop
  | .whole n => 0 < n
  | .real x => x.IsPositive

/-- A fault about an argument, which is none of the bench's own. -/
def Fault.IsAboutValue (f : Fault) : Prop := f.isOwn = false ∧ f.typeName = "ValueError"

namespace Config

variable {room : Nat} {c c' : Config CodeText} {k : Key} {v : Value}

/-! ## The time limit -/

/-- The time limit, if there is one, is positive or no number. -/
def IsTimed (c : Config CodeText) : Prop :=
  ∀ limit, c.timeout = some limit → ∃ x, limit = .real x ∧ (x.IsPositive ∨ x = .nan)

theorem IsTimed.of_timeout_eq (h : c.IsTimed) (heq : c'.timeout = c.timeout) : c'.IsTimed := by
  rwa [IsTimed, heq]

theorem isTimed_standard : standard.coded.IsTimed := by
  rintro _ ⟨⟩
  have hpos : (Binary64.ofInt 30).IsPositive := Binary64.isPositive_ofInt (by decide)
  exact ⟨_, rfl, Or.inl hpos⟩

/-- A limit that data has set is a time. -/
theorem IsTimed.hasTime (h : c.IsTimed) : c.HasTime := by
  intro limit hlimit
  obtain ⟨x, rfl, -⟩ := h limit hlimit
  rfl

/-- A setting leaves the time limit as it is, or makes one that has been looked at. -/
theorem IsTimed.set (h : c.IsTimed) (hset : c.set room k v = .ok c') : c'.IsTimed := by
  cases exists_set_iff.mp ⟨c', hset⟩ with
  | text hk hv =>
    obtain ⟨next, hnext, htimeout⟩ := exists_set_text room c hk hv
    rw [hnext] at hset
    cases hset
    exact h.of_timeout_eq htimeout
  | unlimited =>
    cases hset
    nofun
  | seconds hpos hlt =>
    rw [set_timeout_int hpos hlt] at hset
    cases hset
    rintro _ ⟨⟩
    exact ⟨_, rfl, Or.inl (Binary64.isPositive_ofInt hpos)⟩
  | @fraction x hx =>
    simp only [Config.set, hx, Bool.false_eq_true, if_false] at hset
    cases hset
    rintro _ ⟨⟩
    exact ⟨x, rfl, (Binary64.nonpositive_eq_false_iff.mp hx).symm⟩
  | flag | options =>
    cases hset
    exact h
  | references hv hitems =>
    rw [set_references hv hitems] at hset
    cases hset
    exact h

theorem IsTimed.setEntry {entry : Value × Value} (h : c.IsTimed)
    (hset : Config.setEntry room c entry = .ok c') : c'.IsTimed := by
  unfold Config.setEntry at hset
  split at hset
  · exact h.set hset
  · cases hset
    exact h

theorem IsTimed.foldlM {entries : List (Value × Value)} (h : c.IsTimed)
    (hfold : entries.foldlM (Config.setEntry room) c = .ok c') : c'.IsTimed := by
  induction entries generalizing c with
  | nil =>
    cases hfold
    exact h
  | cons entry entries ih =>
    cases hentry : Config.setEntry room c entry with
    | error e =>
      rw [foldlM_cons_of_error hentry] at hfold
      cases hfold
    | ok next =>
      rw [foldlM_cons_of_ok hentry] at hfold
      exact ih (h.setEntry hentry) hfold

theorem isTimed_of_ofValue (h : ofValue v room = .ok c) : c.IsTimed := by
  cases v with
  | map entries =>
    simp only [ofValue] at h
    split at h
    · exact isTimed_standard.foldlM h
    · cases h
  | _ => cases h

/-! ## Settings of no use -/

theorem parseCodes_of_not_tellsMarks (h : ¬ c.TellsMarks) :
    ∃ e, (Fault.markup e).IsAboutValue ∧
      ∀ marked, Markup.parseCodes c.openMarker c.closeMarker marked = .error e := by
  by_cases hempty : c.openMarker = [] ∨ c.closeMarker = []
  · refine ⟨.emptyDelimiter, ⟨rfl, rfl⟩, fun marked => ?_⟩
    rw [Markup.parseCodes, Markup.Delimiters.ofCodes_of_eq_nil hempty]
    rfl
  · obtain ⟨hopening, hclosing⟩ := not_or.mp hempty
    have hequal : c.openMarker = c.closeMarker := by
      by_contra hne
      exact h ⟨hopening, hclosing, hne⟩
    refine ⟨.equalDelimiters, ⟨rfl, rfl⟩, fun marked => ?_⟩
    rw [Markup.parseCodes, ← hequal, Markup.Delimiters.ofCodes_self hopening]
    rfl

theorem setUp_of_not_isNamed (h : ¬ c.IsNamed) :
    ∃ e, (Fault.workspace e).IsAboutValue ∧
      ∀ engine next t, ((Bench.runner ⟨engine, c⟩).setUp next t).1 = .error e := by
  by_cases hproject : c.shown.projectName = ""
  · refine ⟨.emptyProjectName, ⟨rfl, rfl⟩, fun engine next t => ?_⟩
    rw [@Runner.setUp_of_projectName_eq (Bench.runner ⟨engine, c⟩) hproject]
  · have hdocument : c.shown.documentName = "" := by
      by_contra hne
      exact h ⟨mt CodeText.toText_eq_empty_iff.mpr hproject, mt CodeText.toText_eq_empty_iff.mpr hne⟩
    refine ⟨.emptyDocumentName, ⟨rfl, rfl⟩, fun engine next t => ?_⟩
    rw [@Runner.setUp_of_documentName_eq (Bench.runner ⟨engine, c⟩) hproject hdocument]

end Config

end Assay
