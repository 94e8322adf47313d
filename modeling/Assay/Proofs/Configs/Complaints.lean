import Assay.Config.Reader
import Assay.Fixture
import Assay.Proofs.Configs.Settings

/-!
# Complaints about configurations

Data that is no configuration is complained about, with exceptions. `Config.Slip` lists them: a key
that is no text, for then the complaint about keys that are not known cannot be made; and an entry
whose value has the right type but of which no setting can be made. Entries are looked at in turn, so
the second kind shows only if all keys are known and all entries before are taken.

A file adds those ways in which it can fail to be read that are not about the document
(`Config.FileSlip`). What a file is read by is left open: the statements hold for every reader.
-/

namespace Assay

/-! ## Folds that can fail -/

section Fold

variable {α β ε : Type} {f : β → α → Except ε β} {start : β} {a : α} {l : List α} {e : ε}

theorem foldlM_cons_of_ok {next : β} (h : f start a = .ok next) :
    (a :: l).foldlM f start = l.foldlM f next := by
  rw [List.foldlM_cons, h]
  rfl

theorem foldlM_cons_of_error (h : f start a = .error e) : (a :: l).foldlM f start = .error e := by
  rw [List.foldlM_cons, h]
  rfl

/-- A fold fails at the first element that fails. -/
theorem foldlM_eq_error_iff :
    l.foldlM f start = .error e ↔
      ∃ before a after b, l = before ++ a :: after ∧ before.foldlM f start = .ok b ∧
        f b a = .error e := by
  constructor
  · intro h
    induction l generalizing start with
    | nil => cases h
    | cons a rest ih =>
      cases hstep : f start a with
      | error e' =>
        rw [foldlM_cons_of_error hstep] at h
        cases h
        exact ⟨[], a, rest, start, rfl, rfl, hstep⟩
      | ok next =>
        rw [foldlM_cons_of_ok hstep] at h
        obtain ⟨before, a', after, b, hl, hbefore, hfail⟩ := ih h
        refine ⟨a :: before, a', after, b, by rw [hl]; rfl, ?_, hfail⟩
        rw [foldlM_cons_of_ok hstep, hbefore]
  · rintro ⟨before, a, after, b, rfl, hbefore, hfail⟩
    rw [List.foldlM_append, hbefore]
    show (a :: after).foldlM f b = .error e
    exact foldlM_cons_of_error hfail

end Fold

theorem Value.typeName_eq_str_iff {v : Value} :
    v.typeName = "str" ↔ (∃ s, v = .text s) ∨ ∃ t, v = .codes t := by
  cases v with
  | elided shape => cases shape <;> simp [typeName]
  | _ => simp [typeName]

namespace Config

variable {room : Nat} {c : Config CodeText} {entry : Value × Value} {entries : List (Value × Value)}
  {v : Value} {e : Error}

/-! ## Entries -/

/-- The key of an entry is known. -/
def IsKnown (entry : Value × Value) : Prop := ∃ k, Key.ofValue? entry.1 = some k

/-- The key of an entry takes its value. -/
def IsTaken (room : Nat) (entry : Value × Value) : Prop :=
  ∃ k, Key.ofValue? entry.1 = some k ∧ k.Takes room entry.2

theorem exists_setEntry_iff (h : IsKnown entry) :
    (∃ c', setEntry room c entry = .ok c') ↔ IsTaken room entry := by
  obtain ⟨k, hk⟩ := h
  simp only [setEntry, IsTaken, hk, Option.some.injEq, exists_eq_left']
  exact exists_set_iff

theorem setEntry_fails_iff :
    (setEntry room c entry = .error e ∧ e.isComplaint = false) ↔
      ∃ k, Key.ofValue? entry.1 = some k ∧ k.Slips room entry.2 e := by
  unfold setEntry
  cases hk : Key.ofValue? entry.1 with
  | none => simp
  | some k =>
    simp only [Option.some.injEq, exists_eq_left']
    exact set_fails_iff

/-- Entries are taken together exactly if each one is taken alone. -/
theorem exists_foldlM_setEntry_iff (h : ∀ x ∈ entries, IsKnown x) :
    (∃ c', entries.foldlM (setEntry room) c = .ok c') ↔ ∀ x ∈ entries, IsTaken room x := by
  induction entries generalizing c with
  | nil => exact iff_of_true ⟨c, rfl⟩ nofun
  | cons x rest ih =>
    obtain ⟨hx, hrest⟩ := List.forall_mem_cons.mp h
    rw [List.forall_mem_cons, ← exists_setEntry_iff (c := c) hx]
    cases hstep : setEntry room c x with
    | error e =>
      refine iff_of_false ?_ ?_
      · rintro ⟨c', h⟩
        rw [foldlM_cons_of_error hstep] at h
        cases h
      · rintro ⟨⟨c', h⟩, -⟩
        cases h
    | ok next =>
      rw [foldlM_cons_of_ok hstep, ih hrest]
      exact ⟨fun h => ⟨⟨next, rfl⟩, h⟩, fun h => h.2⟩

/-! ## Keys -/

theorem mem_unknownKeys {key : Value} :
    key ∈ unknownKeys entries ↔ key ∈ entries.map Prod.fst ∧ Key.ofValue? key = none := by
  rw [unknownKeys, List.mem_filter, Option.isNone_iff_eq_none]

theorem unknownKeys_eq_nil_iff : unknownKeys entries = [] ↔ ∀ x ∈ entries, IsKnown x := by
  rw [List.eq_nil_iff_forall_not_mem]
  constructor
  · intro h x hx
    cases hk : Key.ofValue? x.1 with
    | none => exact absurd (mem_unknownKeys.mpr ⟨List.mem_map_of_mem hx, hk⟩) (h x.1)
    | some k => exact ⟨k, hk⟩
  · intro h key hkey
    obtain ⟨hmem, hnone⟩ := mem_unknownKeys.mp hkey
    obtain ⟨x, hx, rfl⟩ := List.mem_map.mp hmem
    obtain ⟨k, hk⟩ := h x hx
    rw [hk] at hnone
    cases hnone

/-- Only a text is a known key. -/
theorem typeName_of_ofValue? {key : Value} {k : Key} (h : Key.ofValue? key = some k) :
    key.typeName = "str" := by
  unfold Key.ofValue? at h
  split at h
  · rfl
  · cases h

/-- Unknown keys that are texts are complained about. -/
theorem unknownError_of_texts {keys : List Value} (h : ∀ key ∈ keys, key.typeName = "str") :
    (unknownError keys).isComplaint = true := by
  unfold unknownError
  rw [if_pos]
  · rfl
  · refine List.all_eq_true.mpr fun key hmem => ?_
    obtain ⟨s, rfl⟩ | ⟨t, rfl⟩ := Value.typeName_eq_str_iff.mp (h key hmem)
    · rfl
    · rfl

/-- A single key that is no text keeps the complaint from being made. -/
theorem unknownError_of_odd {keys : List Value} {key : Value} (hmem : key ∈ keys)
    (h : key.typeName ≠ "str") : unknownError keys = .oddKeys := by
  unfold unknownError
  rw [if_neg]
  intro hall
  have hkey := List.all_eq_true.mp hall key hmem
  cases key with
  | text s | codes t => exact h rfl
  | _ => cases hkey

/-! ## Data -/

/-- Data that is a configuration: a mapping each of whose keys is known and takes its value. -/
def IsAccepted (room : Nat) (v : Value) : Prop :=
  ∃ entries, v = .map entries ∧ ∀ x ∈ entries, IsTaken room x

/-- The data that is no configuration and is not complained about, with what goes wrong. -/
inductive Slip (room : Nat) : Value → Error → Prop
  | oddKey {entries : List (Value × Value)} {key : Value} (hmem : key ∈ entries.map Prod.fst)
      (h : key.typeName ≠ "str") : Slip room (.map entries) .oddKeys
  | entry {before after : List (Value × Value)} {key value : Value} {k : Key} {e : Error}
      (hknown : ∀ x ∈ before ++ (key, value) :: after, IsKnown x)
      (hbefore : ∀ x ∈ before, IsTaken room x) (hkey : Key.ofValue? key = some k)
      (h : k.Slips room value e) : Slip room (.map (before ++ (key, value) :: after)) e

theorem ofValue_map_of_known (h : ∀ x ∈ entries, IsKnown x) :
    ofValue (.map entries) room = entries.foldlM (setEntry room) standard := by
  simp only [ofValue, unknownKeys_eq_nil_iff.mpr h, List.isEmpty_nil, if_true]

theorem ofValue_map_of_unknown (h : unknownKeys entries ≠ []) :
    ofValue (.map entries) room = .error (unknownError (unknownKeys entries)) := by
  simp only [ofValue]
  rw [if_neg (by rwa [List.isEmpty_iff])]

/-- **Data is a configuration exactly if it is accepted.** -/
theorem exists_ofValue_iff : (∃ c, ofValue v room = .ok c) ↔ IsAccepted room v := by
  constructor
  · rintro ⟨c, h⟩
    cases v with
    | map entries =>
      by_cases hunknown : unknownKeys entries = []
      · have hknown := unknownKeys_eq_nil_iff.mp hunknown
        rw [ofValue_map_of_known hknown] at h
        exact ⟨entries, rfl, (exists_foldlM_setEntry_iff hknown).mp ⟨c, h⟩⟩
      · rw [ofValue_map_of_unknown hunknown] at h
        cases h
    | _ => cases h
  · rintro ⟨entries, rfl, htaken⟩
    have hknown : ∀ x ∈ entries, IsKnown x := fun x hx => (htaken x hx).imp fun _ hk => hk.1
    rw [ofValue_map_of_known hknown]
    exact (exists_foldlM_setEntry_iff hknown).mpr htaken

/-- With a key that is no text, a mapping is no configuration and is not complained about. -/
theorem ofValue_of_oddKey {key : Value} (hmem : key ∈ entries.map Prod.fst)
    (h : key.typeName ≠ "str") : ofValue (.map entries) room = .error .oddKeys := by
  have hnone : Key.ofValue? key = none := by
    cases hk : Key.ofValue? key with
    | none => rfl
    | some k => exact absurd (typeName_of_ofValue? hk) h
  have hunknown : key ∈ unknownKeys entries := mem_unknownKeys.mpr ⟨hmem, hnone⟩
  rw [ofValue_map_of_unknown (List.ne_nil_of_mem hunknown), unknownError_of_odd hunknown h]

theorem ofValue_of_slip (h : Slip room v e) :
    ofValue v room = .error e ∧ e.isComplaint = false := by
  cases h with
  | oddKey hmem h => exact ⟨ofValue_of_oddKey hmem h, rfl⟩
  | @entry before after key value k e hknown hbefore hkey h =>
    have hfront : ∀ x ∈ before, IsKnown x := fun x hx => hknown x (List.mem_append_left _ hx)
    obtain ⟨c, hc⟩ := (exists_foldlM_setEntry_iff (c := standard.coded) hfront).mpr hbefore
    obtain ⟨hfail, he⟩ := (@setEntry_fails_iff room c (key, value) e).mpr ⟨k, hkey, h⟩
    rw [ofValue_map_of_known hknown]
    exact ⟨foldlM_eq_error_iff.mpr ⟨before, _, after, c, rfl, hc, hfail⟩, he⟩

/-- **Data is no configuration without a complaint exactly if it slips.** -/
theorem ofValue_fails_iff :
    (ofValue v room = .error e ∧ e.isComplaint = false) ↔ Slip room v e := by
  refine ⟨?_, ofValue_of_slip⟩
  rintro ⟨h, he⟩
  cases v with
  | map entries =>
    by_cases hunknown : unknownKeys entries = []
    · -- the first entry that is not taken decides
      have hknown := unknownKeys_eq_nil_iff.mp hunknown
      rw [ofValue_map_of_known hknown] at h
      obtain ⟨before, ⟨key, value⟩, after, c, rfl, hbefore, hfail⟩ := foldlM_eq_error_iff.mp h
      obtain ⟨k, hkey, hslip⟩ := setEntry_fails_iff.mp ⟨hfail, he⟩
      refine .entry hknown ?_ hkey hslip
      exact (exists_foldlM_setEntry_iff fun x hx => hknown x (List.mem_append_left _ hx)).mp
        ⟨c, hbefore⟩
    · rw [ofValue_map_of_unknown hunknown] at h
      cases h
      by_cases hodd : ∃ key ∈ unknownKeys entries, key.typeName ≠ "str"
      · obtain ⟨key, hmem, hkey⟩ := hodd
        rw [unknownError_of_odd hmem hkey]
        exact .oddKey (mem_unknownKeys.mp hmem).1 hkey
      · have htexts := unknownError_of_texts fun key hmem =>
          Decidable.of_not_not fun hkey => hodd ⟨key, hmem, hkey⟩
        rw [he] at htexts
        cases htexts
  | _ =>
    cases h
    cases he

theorem fixConfig_ofValue_eq_error_iff :
    FixConfig.ofValue v room = .error e ↔ ofValue v room = .error e := by
  unfold FixConfig.ofValue
  cases ofValue v room with
  | error e' => simp [Except.map]
  | ok c => simp [Except.map]

theorem exists_fixConfig_ofValue_iff :
    (∃ c, FixConfig.ofValue v room = .ok c) ↔ ∃ c, ofValue v room = .ok c := by
  unfold FixConfig.ofValue
  cases ofValue v room with
  | error e => exact iff_of_false nofun nofun
  | ok c => exact iff_of_true ⟨_, rfl⟩ ⟨c, rfl⟩

/-! ## Files -/

section Files

variable {ε : Type} {reader : Reader ε} {name : String} {bytes : Option (List UInt8)}

/-- A file that gives a configuration: it is there, and its document is empty or accepted. -/
def IsAcceptedFile (reader : Reader ε) (room : Nat) (bytes : Option (List UInt8)) : Prop :=
  ∃ data v, bytes = some data ∧ reader.read data = .ok v ∧
    (v.isEmpty = true ∨ IsAccepted room v)

/-- The files that give no configuration and are not complained about, with what goes wrong. -/
inductive FileSlip (reader : Reader ε) (room : Nat) : Option (List UInt8) → Failure ε → Prop
  | unreadable {data : List UInt8} {e : ε} (hread : reader.read data = .error e)
      (he : reader.isMalformed e = false) : FileSlip reader room (some data) (.unreadable e)
  | data {data : List UInt8} {v : Value} {e : Error} (hread : reader.read data = .ok v)
      (hfull : v.isEmpty = false) (h : Slip room v e) :
      FileSlip reader room (some data) (.config e)

/-- A document that is empty has nothing that could slip. -/
theorem ofDocument_fails_iff :
    (ofDocument v room = .error e ∧ e.isComplaint = false) ↔
      v.isEmpty = false ∧ Slip room v e := by
  unfold ofDocument
  cases hempty : v.isEmpty with
  | true =>
    refine iff_of_false ?_ (fun h => nomatch h.1)
    rintro ⟨h, -⟩
    cases h
  | false => simpa only [Bool.false_eq_true, if_false, true_and] using ofValue_fails_iff

theorem exists_ofDocument_iff :
    (∃ c, ofDocument v room = .ok c) ↔ v.isEmpty = true ∨ IsAccepted room v := by
  unfold ofDocument
  cases hempty : v.isEmpty with
  | true => exact iff_of_true ⟨standard, rfl⟩ (Or.inl rfl)
  | false =>
    simpa only [Bool.false_eq_true, if_false, false_or] using exists_ofValue_iff

/-- **A file gives a configuration exactly if it is accepted.** -/
theorem exists_load_iff :
    (∃ c, reader.load name bytes room = .ok c) ↔ IsAcceptedFile reader room bytes := by
  constructor
  · rintro ⟨c, h⟩
    unfold Reader.load at h
    split at h
    · cases h
    · next data =>
      split at h
      · cases h
      · next v hread =>
        cases hdata : ofDocument v room with
        | ok c' => exact ⟨data, v, rfl, hread, exists_ofDocument_iff.mp ⟨c', hdata⟩⟩
        | error e =>
          rw [hdata] at h
          cases h
  · rintro ⟨data, v, rfl, hread, hdata⟩
    obtain ⟨c, hc⟩ := exists_ofDocument_iff.mpr hdata
    refine ⟨c, ?_⟩
    simp only [Reader.load, hread, hc]
    rfl

/-- **A file gives no configuration without a complaint exactly if it slips.** -/
theorem load_fails_iff {f : Failure ε} :
    (reader.load name bytes room = .error f ∧ f.isComplaint = false) ↔
      FileSlip reader room bytes f := by
  constructor
  · rintro ⟨h, hf⟩
    unfold Reader.load at h
    split at h
    · -- a missing file is complained about
      cases h
      cases hf
    · next data =>
      split at h
      · next e hread =>
        cases h
        split at hf
        · cases hf
        · next he =>
          rw [if_neg he]
          exact .unreadable hread (Bool.eq_false_iff.mpr he)
      · next v hread =>
        cases hdata : ofDocument v room with
        | ok c =>
          rw [hdata] at h
          cases h
        | error e =>
          rw [hdata] at h
          cases h
          obtain ⟨hfull, hslip⟩ := ofDocument_fails_iff.mp ⟨hdata, hf⟩
          exact .data hread hfull hslip
  · intro h
    cases h with
    | unreadable hread he =>
      simp only [Reader.load, hread, he]
      exact ⟨rfl, rfl⟩
    | data hread hfull h =>
      obtain ⟨hdata, he⟩ := ofDocument_fails_iff.mpr ⟨hfull, h⟩
      simp only [Reader.load, hread, hdata]
      exact ⟨rfl, he⟩

end Files

/-! ## Summary -/

/-- **Data and files come to a configuration or a complaint, unless they slip**, and to a
configuration exactly if they are accepted. The settings of cases about fixes are made of the same
data in the same way. This holds whatever reads the files, and however much room there is when
references are written. -/
theorem settled_unless_slip {ε : Type} (reader : Reader ε) (room : Nat) (v : Value) (name : String)
    (bytes : Option (List UInt8)) :
    ((∃ c, ofValue v room = .ok c) ↔ IsAccepted room v) ∧
      (∀ e, (ofValue v room = .error e ∧ e.isComplaint = false) ↔ Slip room v e) ∧
      ((∃ c, FixConfig.ofValue v room = .ok c) ↔ IsAccepted room v) ∧
      (∀ e, (FixConfig.ofValue v room = .error e ∧ e.isComplaint = false) ↔ Slip room v e) ∧
      ((∃ c, reader.load name bytes room = .ok c) ↔ IsAcceptedFile reader room bytes) ∧
      ∀ f, (reader.load name bytes room = .error f ∧ f.isComplaint = false) ↔
        FileSlip reader room bytes f := by
  refine ⟨exists_ofValue_iff, fun e => ofValue_fails_iff, ?_, ?_, exists_load_iff,
    fun f => load_fails_iff⟩
  · rw [exists_fixConfig_ofValue_iff]
    exact exists_ofValue_iff
  · intro e
    rw [fixConfig_ofValue_eq_error_iff]
    exact ofValue_fails_iff

/-- A mapping with an integer as a key is no configuration, and there is no complaint about it. -/
theorem unsettled_integer_key :
    ofValue (.map [(.int 1, .int 2)]) = .error .oddKeys ∧ Error.isComplaint .oddKeys = false :=
  ⟨rfl, rfl⟩

end Config

end Assay
