import Assay.Config.Basic
import Assay.Proofs.Numbers.Range

/-!
# Settings from values

A key takes some values, complains about others, and for the rest no setting can be made: a time limit
has to become a floating point number, and a reference has to become a text. The first goes wrong for
an integer that is too great, the second for an integer with too many digits and for collections too
deep in one another; then there is neither a setting nor a complaint. `set_cases` says that there is
no fourth way.

How deep collections can be is up to the room that is left when a reference is written, and all
statements hold for every room.
-/

namespace Assay

/-! ## Writing values -/

namespace Value

/-- The values that stand directly in a collection where it is written, keys of a mapping included. A
set is written as the list of its items. -/
def contents : Value → List Value
  | .list items | .tuple items => items
  | .set [] => []
  | .set items => [.list items]
  | .map entries => entries.flatMap fun entry => [entry.1, entry.2]
  | _ => []

/-- A value is a part of another one, so many collections deep in it. -/
inductive PartAt (v : Value) : Nat → Value → Prop
  | itself : PartAt v 0 v
  | content {depth : Nat} {w whole : Value} (hmem : w ∈ whole.contents) (h : PartAt v depth w) :
    PartAt v (depth + 1) whole

/-- A value can be written: no part of it is too deep, and no integer among them has too many
digits. -/
structure CanWrite (room : Nat) (v : Value) : Prop where
  shallow : ∀ w depth, PartAt w depth v → depth ≤ room
  short : ∀ n depth, PartAt (.int n) depth v → n.natAbs < tenTo Integer.digitLimit

/-- What is the first thing to go wrong when a value is written from left to right. -/
inductive Breaks : Nat → Value → WriteError → Prop
  | tooLong {room : Nat} {n : Int} (h : tenTo Integer.digitLimit ≤ n.natAbs) :
    Breaks room (.int n) .tooLong
  | tooDeep {v : Value} (h : v.contents ≠ []) : Breaks 0 v .tooDeep
  | content {room : Nat} {v w : Value} {before after : List Value} {e : WriteError}
      (hsplit : v.contents = before ++ w :: after) (hbefore : ∀ u ∈ before, u.CanWrite room)
      (h : Breaks room w e) : Breaks (room + 1) v e

variable {room : Nat} {v : Value} {e : WriteError}

/-- A value can be written if it is no integer that is too long and, with one collection less, all that
it holds can be written. -/
theorem canWrite_succ_iff :
    v.CanWrite (room + 1) ↔
      (∀ n, v = .int n → n.natAbs < tenTo Integer.digitLimit) ∧
        ∀ w ∈ v.contents, w.CanWrite room := by
  constructor
  · intro h
    refine ⟨fun n hv => h.short n 0 (hv ▸ .itself), fun w hmem => ⟨fun u depth hu => ?_, ?_⟩⟩
    · have := h.shallow u (depth + 1) (.content hmem hu)
      omega
    · exact fun n depth hn => h.short n (depth + 1) (.content hmem hn)
  · rintro ⟨hint, hcontents⟩
    refine ⟨fun u depth hu => ?_, fun n depth hn => ?_⟩
    · cases hu with
      | itself => exact Nat.zero_le _
      | content hmem hu => exact Nat.succ_le_succ ((hcontents _ hmem).shallow u _ hu)
    · cases hn with
      | itself => exact hint n rfl
      | content hmem hn => exact (hcontents _ hmem).short n _ hn

/-- Without room a value can be written if it holds nothing. -/
theorem canWrite_zero_iff :
    v.CanWrite 0 ↔ (∀ n, v = .int n → n.natAbs < tenTo Integer.digitLimit) ∧ v.contents = [] := by
  constructor
  · intro h
    refine ⟨fun n hv => h.short n 0 (hv ▸ .itself), List.eq_nil_iff_forall_not_mem.mpr ?_⟩
    intro w hmem
    exact absurd (h.shallow w 1 (.content hmem .itself)) (by omega)
  · rintro ⟨hint, hnil⟩
    refine ⟨fun u depth hu => ?_, fun n depth hn => ?_⟩
    · cases hu with
      | itself => exact Nat.le_refl 0
      | content hmem => simp [hnil] at hmem
    · cases hn with
      | itself => exact hint n rfl
      | content hmem => simp [hnil] at hmem

theorem itemsWriteError?_succ (room : Nat) (items : List Value) :
    itemsWriteError? (room + 1) items = items.findSome? (writeError? room) := by
  induction items with
  | nil => rfl
  | cons v rest ih =>
    rw [itemsWriteError?, ih, List.findSome?_cons]
    cases writeError? room v <;> rfl

theorem entriesWriteError?_succ (room : Nat) (entries : List (Value × Value)) :
    entriesWriteError? (room + 1) entries
      = (entries.flatMap fun entry => [entry.1, entry.2]).findSome? (writeError? room) := by
  induction entries with
  | nil => rfl
  | cons entry rest ih =>
    obtain ⟨k, v⟩ := entry
    rw [entriesWriteError?, ih, List.flatMap_cons, List.cons_append, List.cons_append,
      List.nil_append, List.findSome?_cons, List.findSome?_cons]
    cases writeError? room k <;> cases writeError? room v <;> rfl

theorem writeError?_succ (h : ∀ n, v ≠ .int n) :
    writeError? (room + 1) v = v.contents.findSome? (writeError? room) := by
  cases v with
  | int n => exact absurd rfl (h n)
  | list items | tuple items => exact itemsWriteError?_succ room items
  | set items =>
    cases items with
    | nil => rfl
    | cons item rest =>
      show itemsWriteError? room (item :: rest) = [list (item :: rest)].findSome? (writeError? room)
      rw [List.findSome?_singleton]
      rfl
  | map entries => exact entriesWriteError?_succ room entries
  | _ => rfl

theorem writeError?_zero (h : ∀ n, v ≠ .int n) :
    writeError? 0 v = if v.contents = [] then none else some .tooDeep := by
  cases v with
  | int n => exact absurd rfl (h n)
  | list items | tuple items | set items => cases items <;> rfl
  | map entries =>
    cases entries <;> rfl
  | _ => rfl

theorem writeError?_int (room : Nat) (n : Int) :
    writeError? room (.int n)
      = if n.natAbs < tenTo Integer.digitLimit then none else some .tooLong := by
  simp only [writeError?, Integer.isWritable_iff]

theorem canWrite_int {n : Int} :
    (Value.int n).CanWrite room ↔ n.natAbs < tenTo Integer.digitLimit := by
  have hself : (∀ m, Value.int n = .int m → m.natAbs < tenTo Integer.digitLimit) ↔
      n.natAbs < tenTo Integer.digitLimit :=
    ⟨fun h => h n rfl, fun h m hm => Value.int.inj hm ▸ h⟩
  cases room with
  | zero => rw [canWrite_zero_iff, hself, and_iff_left (show (int n).contents = [] from rfl)]
  | succ room => rw [canWrite_succ_iff, hself, and_iff_left nofun]

/-- **A value can be written exactly if nothing goes wrong.** -/
theorem writeError?_eq_none_iff : writeError? room v = none ↔ v.CanWrite room := by
  induction room generalizing v with
  | zero =>
    by_cases hint : ∃ n, v = .int n
    · obtain ⟨n, rfl⟩ := hint
      simp [writeError?_int, canWrite_int]
    · rw [not_exists] at hint
      rw [writeError?_zero hint, canWrite_zero_iff, and_iff_right fun n hn => absurd hn (hint n)]
      simp
  | succ room ih =>
    by_cases hint : ∃ n, v = .int n
    · obtain ⟨n, rfl⟩ := hint
      simp [writeError?_int, canWrite_int]
    · rw [not_exists] at hint
      rw [writeError?_succ hint, canWrite_succ_iff,
        and_iff_right fun n hn => absurd hn (hint n), List.findSome?_eq_none_iff]
      exact forall₂_congr fun w _ => ih

theorem ne_int_of_contents (h : v.contents ≠ []) (n : Int) : v ≠ .int n := by
  rintro rfl
  exact h rfl

theorem breaks_int {n : Int} (h : writeError? room (.int n) = some e) : (int n).Breaks room e := by
  rw [writeError?_int] at h
  split at h
  · cases h
  · next hlong =>
    cases h
    exact .tooLong (Nat.le_of_not_lt hlong)

theorem breaks_of_writeError? (h : writeError? room v = some e) : v.Breaks room e := by
  induction room generalizing v with
  | zero =>
    by_cases hint : ∃ n, v = .int n
    · obtain ⟨n, rfl⟩ := hint
      exact breaks_int h
    rw [writeError?_zero (not_exists.mp hint)] at h
    split at h
    · cases h
    · next hcontents =>
      cases h
      exact .tooDeep hcontents
  | succ room ih =>
    by_cases hint : ∃ n, v = .int n
    · obtain ⟨n, rfl⟩ := hint
      exact breaks_int h
    rw [writeError?_succ (not_exists.mp hint), List.findSome?_eq_some_iff] at h
    obtain ⟨before, w, after, hsplit, hw, hbefore⟩ := h
    exact .content hsplit (fun u hu => writeError?_eq_none_iff.mp (hbefore u hu)) (ih hw)

/-- **What goes wrong first with a value.** -/
theorem writeError?_eq_some_iff : writeError? room v = some e ↔ v.Breaks room e := by
  refine ⟨breaks_of_writeError?, fun h => ?_⟩
  induction h with
  | tooLong h => rw [writeError?_int, if_neg (Nat.not_lt.mpr h)]
  | tooDeep h => rw [writeError?_zero (ne_int_of_contents h), if_neg h]
  | @content room v w before after e hsplit hbefore h ih =>
    have hcontents : v.contents ≠ [] := by
      rw [hsplit]
      exact List.append_ne_nil_of_right_ne_nil _ (List.cons_ne_nil _ _)
    rw [writeError?_succ (ne_int_of_contents hcontents), List.findSome?_eq_some_iff]
    exact ⟨before, w, after, hsplit, ih, fun u hu => writeError?_eq_none_iff.mpr (hbefore u hu)⟩

end Value

/-! ## Keys and values -/

namespace Config

open Binary64 (leastTooGreat)

/-- A value is a list or a tuple of some items. -/
inductive Lists (items : List Value) : Value → Prop
  | list : Lists items (.list items)
  | tuple : Lists items (.tuple items)

/-- The values that a key takes, with some room for references in writing. -/
inductive Key.Takes (room : Nat) : Key → Value → Prop
  | text {k : Key} {v : Value} {t : CodeText} (hk : k.wanted = ["str"]) (hv : v.codes? = some t) :
    Takes room k v
  | unlimited : Takes room .timeout .null
  | seconds {n : Int} (hpos : 0 < n) (h : n < leastTooGreat) : Takes room .timeout (.int n)
  | fraction {x : Binary64} (h : x.nonpositive = false) : Takes room .timeout (.real x)
  | flag (b : Bool) : Takes room .failOnInputErrors (.bool b)
  | references {v : Value} {items : List Value} (hv : Lists items v)
      (h : ∀ item ∈ items, item.CanWrite room) : Takes room .references v
  | options (entries : List (Value × Value)) : Takes room .compilerOptions (.map entries)

/-- The values that have the right type for a key and of which no setting can be made, with what
goes wrong. -/
inductive Key.Slips (room : Nat) : Key → Value → Error → Prop
  | tooGreat {n : Int} (h : leastTooGreat ≤ n) : Slips room .timeout (.int n) .tooGreat
  | reference {v item : Value} {before after : List Value} {e : Value.WriteError}
      (hv : Lists (before ++ item :: after) v) (hbefore : ∀ u ∈ before, u.CanWrite room)
      (h : item.Breaks room e) : Slips room .references v (.ofWrite e)

variable {room : Nat} {c : Config CodeText} {k : Key} {v : Value} {e : Error}

/-- A time limit that is not too great stays finite. -/
theorem set_timeout_int {n : Int} (hpos : 0 < n) (h : n < leastTooGreat) :
    c.set room .timeout (.int n) = .ok { c with timeout := some (.real (.ofInt n)) } := by
  have hfinite : ¬ (Binary64.ofInt n).isInfinite = true := by
    rw [Binary64.isInfinite_ofInt_iff hpos]
    omega
  simp only [set]
  rw [if_neg (by omega), if_neg hfinite]

theorem set_references {items : List Value} (hv : Lists items v)
    (h : ∀ item ∈ items, item.CanWrite room) :
    c.set room .references v = .ok { c with references := items.map Value.toCodes } := by
  have hnone : items.findSome? (Value.writeError? room) = none :=
    List.findSome?_eq_none_iff.mpr fun item hitem => Value.writeError?_eq_none_iff.mpr (h item hitem)
  cases hv <;> simp only [set, hnone]

/-- A text is taken and changes no time limit. -/
theorem exists_set_text (room : Nat) (c : Config CodeText) {t : CodeText} (hk : k.wanted = ["str"])
    (hv : v.codes? = some t) : ∃ c', c.set room k v = .ok c' ∧ c'.timeout = c.timeout := by
  unfold set
  rw [hv]
  cases k <;> first | exact ⟨_, rfl, rfl⟩ | exact absurd hk (by decide)

theorem exists_set_of_takes (h : k.Takes room v) : ∃ c', c.set room k v = .ok c' := by
  cases h with
  | text hk hv => exact (exists_set_text room c hk hv).imp fun _ h => h.1
  | unlimited => exact ⟨_, rfl⟩
  | seconds hpos h => exact ⟨_, set_timeout_int hpos h⟩
  | @fraction x h =>
    refine ⟨{ c with timeout := some (.real x) }, ?_⟩
    simp only [set, h, Bool.false_eq_true, if_false]
  | flag | options => exact ⟨_, rfl⟩
  | references hv h => exact ⟨_, set_references hv h⟩

theorem set_of_slips (h : k.Slips room v e) : c.set room k v = .error e := by
  cases h with
  | @tooGreat n h =>
    have hlarge : 0 < leastTooGreat := Binary64.leastTooGreat_pos
    have hinfinite := (Binary64.isInfinite_ofInt_iff (by omega)).mpr h
    simp only [set]
    rw [if_neg (by omega), if_pos hinfinite]
  | @reference v item before after e hv hbefore h =>
    have hsome : (before ++ item :: after).findSome? (Value.writeError? room) = some e :=
      List.findSome?_eq_some_iff.mpr ⟨before, item, after, rfl, Value.writeError?_eq_some_iff.mpr h,
        fun u hu => Value.writeError?_eq_none_iff.mpr (hbefore u hu)⟩
    cases hv <;> simp only [set, hsome]

theorem Key.Slips.isComplaint (h : k.Slips room v e) : e.isComplaint = false := by
  cases h with
  | tooGreat => rfl
  | @reference v item before after e hv hbefore h => cases e <;> rfl

/-- References are taken together, or the first one that cannot be written slips. -/
theorem takes_or_slips_references {items : List Value} (hv : Lists items v) :
    Key.Takes room .references v ∨ ∃ e, Key.Slips room .references v e := by
  cases hfound : items.findSome? (Value.writeError? room) with
  | none =>
    rw [List.findSome?_eq_none_iff] at hfound
    exact .inl (.references hv fun item hitem => Value.writeError?_eq_none_iff.mp (hfound item hitem))
  | some e =>
    obtain ⟨before, item, after, rfl, hitem, hbefore⟩ := List.findSome?_eq_some_iff.mp hfound
    exact .inr ⟨_, .reference hv (fun u hu => Value.writeError?_eq_none_iff.mp (hbefore u hu))
      (Value.writeError?_eq_some_iff.mp hitem)⟩

/-- A value that is neither taken nor slips is complained about. -/
theorem set_cases (room : Nat) (c : Config CodeText) (k : Key) (v : Value) :
    k.Takes room v ∨ (∃ e, k.Slips room v e) ∨
      ∃ e, c.set room k v = .error e ∧ e.isComplaint = true := by
  unfold set
  split
  all_goals try exact .inl (.text rfl ‹_›)
  · exact .inl .unlimited
  · next _ n =>
    by_cases hpos : n ≤ 0
    · rw [if_pos hpos]
      exact .inr (.inr ⟨_, rfl, rfl⟩)
    · by_cases h : n < leastTooGreat
      · exact .inl (.seconds (by omega) h)
      · exact .inr (.inl ⟨_, .tooGreat (by omega)⟩)
  · next _ x =>
    split
    · exact .inr (.inr ⟨_, rfl, rfl⟩)
    · next h => exact .inl (.fraction (Bool.eq_false_iff.mpr h))
  · exact .inl (.flag _)
  · exact (takes_or_slips_references .list).imp_right .inl
  · exact (takes_or_slips_references .tuple).imp_right .inl
  · exact .inl (.options _)
  · exact .inr (.inr ⟨_, rfl, rfl⟩)

/-- **A key takes a value, whatever the other settings are.** -/
theorem exists_set_iff : (∃ c', c.set room k v = .ok c') ↔ k.Takes room v := by
  refine ⟨?_, exists_set_of_takes⟩
  rintro ⟨c', hset⟩
  rcases set_cases room c k v with h | ⟨e, h⟩ | ⟨e, h, -⟩
  · exact h
  · rw [set_of_slips h] at hset
    cases hset
  · rw [h] at hset
    cases hset

/-- **A setting fails without a complaint exactly if the value slips.** -/
theorem set_fails_iff :
    (c.set room k v = .error e ∧ e.isComplaint = false) ↔ k.Slips room v e := by
  refine ⟨?_, fun h => ⟨set_of_slips h, h.isComplaint⟩⟩
  rintro ⟨hset, he⟩
  rcases set_cases room c k v with h | ⟨e', h⟩ | ⟨e', h, he'⟩
  · obtain ⟨c', h⟩ := exists_set_of_takes (c := c) h
    rw [h] at hset
    cases hset
  · rw [set_of_slips h] at hset
    cases hset
    exact h
  · rw [h] at hset
    cases hset
    rw [he] at he'
    cases he'

end Config

end Assay
