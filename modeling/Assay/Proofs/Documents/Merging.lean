import Assay.Yaml.Merge
import Mathlib.Data.List.Basic

/-!
# Merging comes to an end

Following the merge keys of a mapping takes them out of the graph, and it never puts one in: what is
taken over comes from mappings that have none left. So a graph has fewer merge keys after each step
(`Tidies` and `merges_fill_lt`), and the number of merge keys that a graph has in the beginning is
enough steps. Merging then fails for what is merged only, and never for want of steps
(`merge_cases`).
-/

namespace Assay.Yaml.Graph

variable {g g' g'' : Graph} {id i : NodeId}

/-! ## Changes of a node -/

theorem get_modify (g : Graph) (id : NodeId) (change : Node → Node) (i : NodeId) :
    (⟨g.nodes.modify id change⟩ : Graph).get i
      = if id = i ∧ i < g.size then change (g.get i) else g.get i := by
  by_cases hi : i < g.nodes.size
  · by_cases hid : id = i <;>
      simp [get, size, Array.getD_eq_getD_getElem?, Array.getElem_modify, hi, hid]
  · simp [get, size, Array.getD_eq_getD_getElem?, hi]

theorem size_fill (g : Graph) (id : NodeId) (c : Content) : (g.fill id c).size = g.size := by
  simp [fill, size]

theorem size_retag (g : Graph) (id : NodeId) (t : Tag) : (g.retag id t).size = g.size := by
  simp [retag, size]

theorem tag_fill (g : Graph) (id : NodeId) (c : Content) (i : NodeId) :
    (g.fill id c).tag i = g.tag i := by
  rw [tag, fill, get_modify]
  split <;> rfl

theorem eq_merge_of_tag_retag (h : (g.retag id .text).tag i = .merge) : g.tag i = .merge := by
  rw [tag, retag, get_modify] at h
  split at h
  · cases h
  · exact h

theorem entriesOf_fill (g : Graph) (id : NodeId) (entries : List (NodeId × NodeId)) (i : NodeId) :
    (g.fill id (.mapping entries)).entriesOf i
      = if id = i ∧ i < g.size then entries else g.entriesOf i := by
  rw [entriesOf, entries?, fill, get_modify]
  by_cases hi : id = i ∧ i < g.size
  · rw [if_pos hi, if_pos hi]
    rfl
  · rw [if_neg hi, if_neg hi]
    rfl

theorem entriesOf_retag (g : Graph) (id : NodeId) (t : Tag) (i : NodeId) :
    (g.retag id t).entriesOf i = g.entriesOf i := by
  rw [entriesOf, entries?, retag, get_modify]
  by_cases hi : id = i ∧ i < g.size
  · rw [if_pos hi]
    rfl
  · rw [if_neg hi]
    rfl

/-- Only a node of the graph has entries. -/
theorem lt_size_of_entriesOf (h : g.entriesOf id ≠ []) : id < g.size := by
  by_contra hid
  refine h ?_
  have hget : g.get id = Node.empty := by
    rw [get, Array.getD_eq_getD_getElem?, Array.getElem?_eq_none (Nat.le_of_not_lt hid)]
    rfl
  rw [entriesOf, entries?, hget]
  rfl

/-! ## Entries without merge keys -/

/-- None of some entries has a merge key. -/
def NoMerge (g : Graph) (entries : List (NodeId × NodeId)) : Prop :=
  ∀ entry ∈ entries, g.isMerge entry = false

section NoMerge

variable {entries more : List (NodeId × NodeId)}

theorem noMerge_iff_countP : g.NoMerge entries ↔ entries.countP g.isMerge = 0 := by
  simp only [NoMerge, List.countP_eq_zero, Bool.not_eq_true]

theorem NoMerge.append (h : g.NoMerge entries) (hmore : g.NoMerge more) :
    g.NoMerge (entries ++ more) := by
  intro entry hentry
  rcases List.mem_append.mp hentry with hmem | hmem
  · exact h entry hmem
  · exact hmore entry hmem

theorem countP_eraseIdx_lt {index : Nat} (h : entries.findIdx? g.isMerge = some index) :
    (entries.eraseIdx index).countP g.isMerge < entries.countP g.isMerge := by
  obtain ⟨hindex, hmerge, -⟩ := List.findIdx?_eq_some_iff_getElem.mp h
  have hsplit : entries = entries.take index ++ entries[index] :: entries.drop (index + 1) := by
    rw [← List.drop_eq_getElem_cons hindex, List.take_append_drop]
  have hwhole := congrArg (List.countP g.isMerge) hsplit
  rw [List.countP_append, List.countP_cons_of_pos hmerge] at hwhole
  rw [List.eraseIdx_eq_take_drop_succ, List.countP_append]
  omega

end NoMerge

/-! ## Graphs with fewer merge keys -/

/-- A graph has come from another one without a merge key more. -/
structure Tidies (g g' : Graph) : Prop where
  size_eq : g'.size = g.size
  tag_of : ∀ i, g'.tag i = .merge → g.tag i = .merge
  mergesOf_le : ∀ i, g'.mergesOf i ≤ g.mergesOf i

namespace Tidies

theorem refl (g : Graph) : Tidies g g := ⟨rfl, fun _ => id, fun _ => Nat.le_refl _⟩

theorem trans (h : Tidies g g') (h' : Tidies g' g'') : Tidies g g'' where
  size_eq := h'.size_eq.trans h.size_eq
  tag_of i hi := h.tag_of i (h'.tag_of i hi)
  mergesOf_le i := Nat.le_trans (h'.mergesOf_le i) (h.mergesOf_le i)

theorem isMerge_of (h : Tidies g g') {entry : NodeId × NodeId} (hmerge : g'.isMerge entry = true) :
    g.isMerge entry = true := by
  rw [isMerge, beq_iff_eq] at hmerge ⊢
  exact h.tag_of _ hmerge

theorem noMerge (h : Tidies g g') {entries : List (NodeId × NodeId)}
    (hnone : g.NoMerge entries) : g'.NoMerge entries := by
  intro entry hentry
  by_contra hmerge
  rw [Bool.not_eq_false] at hmerge
  exact Bool.eq_false_iff.mp (hnone entry hentry) (h.isMerge_of hmerge)

/-- The merge keys of some mappings do not become more. -/
theorem countP_flatMap_le (h : Tidies g g') (ids : List NodeId) :
    (ids.flatMap g'.entriesOf).countP g'.isMerge ≤ (ids.flatMap g.entriesOf).countP g.isMerge := by
  induction ids with
  | nil => exact Nat.le_refl _
  | cons i rest ih =>
    rw [List.flatMap_cons, List.flatMap_cons, List.countP_append, List.countP_append]
    exact Nat.add_le_add (h.mergesOf_le i) ih

theorem merges_le (h : Tidies g g') : g'.merges ≤ g.merges := by
  rw [merges, merges, h.size_eq]
  exact h.countP_flatMap_le _

/-- A graph has fewer merge keys if one of its mappings has. -/
theorem merges_lt (h : Tidies g g') (hid : id < g.size) (hless : g'.mergesOf id < g.mergesOf id) :
    g'.merges < g.merges := by
  obtain ⟨before, after, hrange⟩ := List.append_of_mem (List.mem_range.mpr hid)
  have hbefore := h.countP_flatMap_le before
  have hafter := h.countP_flatMap_le after
  unfold mergesOf at hless
  rw [merges, merges, h.size_eq, hrange]
  simp only [List.flatMap_append, List.flatMap_cons, List.countP_append]
  omega

end Tidies

theorem tidies_retag (g : Graph) (id : NodeId) : Tidies g (g.retag id .text) where
  size_eq := size_retag g id .text
  tag_of i := eq_merge_of_tag_retag
  mergesOf_le i := by
    rw [mergesOf, entriesOf_retag]
    refine List.countP_mono_left fun entry _ hmerge => ?_
    rw [isMerge, beq_iff_eq] at hmerge ⊢
    exact eq_merge_of_tag_retag hmerge

theorem tidies_settle (entries : List (NodeId × NodeId)) (g : Graph) :
    Tidies g (g.settle entries) := by
  unfold settle
  induction entries generalizing g with
  | nil => exact Tidies.refl g
  | cons entry rest ih =>
    rw [List.foldl_cons]
    split
    · exact (tidies_retag g entry.1).trans (ih _)
    · exact ih g

theorem isMerge_fill (g : Graph) (id : NodeId) (c : Content) :
    (g.fill id c).isMerge = g.isMerge := by
  funext entry
  rw [isMerge, isMerge, tag_fill]

theorem mergesOf_fill (g : Graph) (id : NodeId) (entries : List (NodeId × NodeId)) (i : NodeId) :
    (g.fill id (.mapping entries)).mergesOf i
      = if id = i ∧ i < g.size then entries.countP g.isMerge else g.mergesOf i := by
  rw [mergesOf, isMerge_fill, entriesOf_fill]
  split <;> rfl

theorem tidies_fill {entries : List (NodeId × NodeId)}
    (h : entries.countP g.isMerge ≤ g.mergesOf id) : Tidies g (g.fill id (.mapping entries)) where
  size_eq := size_fill g id _
  tag_of i hi := by rwa [tag_fill] at hi
  mergesOf_le i := by
    rw [mergesOf_fill]
    split
    · next hi => exact hi.1 ▸ h
    · exact Nat.le_refl _

theorem merges_fill_lt {entries : List (NodeId × NodeId)}
    (h : entries.countP g.isMerge < g.mergesOf id) :
    (g.fill id (.mapping entries)).merges < g.merges := by
  have hid : id < g.size := by
    refine lt_size_of_entriesOf fun hnil => ?_
    rw [mergesOf, hnil] at h
    exact Nat.not_lt_zero _ h
  refine (tidies_fill (Nat.le_of_lt h)).merges_lt hid ?_
  rwa [mergesOf_fill, if_pos ⟨rfl, hid⟩]

/-! ## Merging -/

/-- What comes of merging a mapping: what it names is nothing that could be merged, or no merge key is
left of its own and none has been added elsewhere. -/
def Merged (g : Graph) (id : NodeId) (result : Except Error Graph) : Prop :=
  result = .error .merge ∨ ∃ g', result = .ok g' ∧ Tidies g g' ∧ g'.NoMerge (g'.entriesOf id)

theorem mergeEach_cases {merges : Nat} {mergeOne : NodeId → Graph → Except Error Graph}
    (hone : ∀ id g, g.merges ≤ merges → Merged g id (mergeOne id g)) (ids : List NodeId)
    (henough : g.merges ≤ merges) :
    mergeEach mergeOne ids g = .error .merge ∨
      ∃ part g', mergeEach mergeOne ids g = .ok (part, g') ∧ Tidies g g' ∧ g'.NoMerge part := by
  induction ids generalizing g with
  | nil => exact .inr ⟨[], g, rfl, .refl g, nofun⟩
  | cons id rest ih =>
    rcases hone id g henough with herror | ⟨g₁, hok, htidies, hnone⟩
    · left
      rw [mergeEach, herror]
      rfl
    have hstep : mergeEach mergeOne (id :: rest) g
        = (mergeEach mergeOne rest g₁).map fun r => (r.1 ++ g₁.entriesOf id, r.2) := by
      rw [mergeEach, hok]
      show (mergeEach mergeOne rest g₁ >>= _) = _
      cases mergeEach mergeOne rest g₁ <;> rfl
    rw [hstep]
    rcases ih (Nat.le_trans htidies.merges_le henough) with
      herror | ⟨later, g₂, hok₂, htidies₂, hlater⟩
    · left
      rw [herror]
      rfl
    · right
      rw [hok₂]
      exact ⟨_, g₂, rfl, htidies.trans htidies₂, hlater.append (htidies₂.noMerge hnone)⟩

/-- A mapping without merge keys is only put together with what has been taken over. -/
theorem merged_of_noMerge (merges : Nat) {taken : List (NodeId × NodeId)}
    (h : g.NoMerge (g.entriesOf id)) (htaken : g.NoMerge taken) :
    Merged g id (mergeInto merges id taken g) := by
  have hindex : (g.entriesOf id).findIdx? g.isMerge = none := List.findIdx?_eq_none_iff.mpr h
  have hsettle := tidies_settle (g.entriesOf id) g
  have hall := noMerge_iff_countP.mp (hsettle.noMerge (htaken.append h))
  have hfill := @tidies_fill (g.settle (g.entriesOf id)) id _
    (Nat.le_trans (Nat.le_of_eq hall) (Nat.zero_le _))
  refine .inr ⟨_, ?_, hsettle.trans hfill, ?_⟩
  · cases merges <;> simp only [mergeInto, hindex]
  · have hle := (hsettle.trans hfill).mergesOf_le id
    have hzero : g.mergesOf id = 0 := noMerge_iff_countP.mp h
    rw [hzero, Nat.le_zero] at hle
    exact noMerge_iff_countP.mpr hle

/-- **The merge keys of a graph are enough steps for merging**, where none has been taken over. -/
theorem merged_mergeInto {merges : Nat} {taken : List (NodeId × NodeId)}
    (henough : g.merges ≤ merges) (htaken : g.NoMerge taken) :
    Merged g id (mergeInto merges id taken g) := by
  induction merges generalizing g id taken with
  | zero =>
    refine merged_of_noMerge 0 (List.findIdx?_eq_none_iff.mp ?_) htaken
    by_contra hsome
    obtain ⟨index, hindex⟩ := Option.ne_none_iff_exists'.mp hsome
    have hless := merges_fill_lt (countP_eraseIdx_lt hindex)
    omega
  | succ merges ih =>
    cases hindex : (g.entriesOf id).findIdx? g.isMerge with
    | none => exact merged_of_noMerge _ (List.findIdx?_eq_none_iff.mp hindex) htaken
    | some index =>
      -- a merge key is taken out before anything is merged
      have hfewer := countP_eraseIdx_lt hindex
      have herased := tidies_fill (Nat.le_of_lt hfewer)
      have hleft := Nat.le_of_lt_succ (Nat.lt_of_lt_of_le (merges_fill_lt hfewer) henough)
      unfold mergeInto
      simp only [hindex]
      split
      · exact .inl rfl
      · next sources _ =>
        have heach := mergeEach_cases (fun source g h => @ih g source [] h nofun) sources hleft
        obtain herror | ⟨part, g₂, hok, htidies, hpart⟩ := heach
        · left
          rw [herror]
          rfl
        · rw [hok]
          have hall := herased.trans htidies
          obtain herror | ⟨g₃, hmerged, htidies₃, hnone⟩ := ih
            (Nat.le_trans htidies.merges_le hleft) ((hall.noMerge htaken).append hpart)
          · exact .inl herror
          · exact .inr ⟨g₃, hmerged, hall.trans htidies₃, hnone⟩

/-- **Merging ends**: no merge key of the mapping is left, or what it names is nothing to be merged. -/
theorem merge_cases (id : NodeId) (g : Graph) : Merged g id (g.merge id) := by
  unfold merge
  split
  · exact merged_mergeInto (Nat.le_refl _) nofun
  · next hneeds =>
    refine .inr ⟨g, rfl, .refl g, fun entry hentry => ?_⟩
    rw [needsMerge, Bool.not_eq_true, List.any_eq_false] at hneeds
    have hneither := hneeds entry hentry
    rw [Bool.not_eq_true, Bool.or_eq_false_iff] at hneither
    exact hneither.1

end Assay.Yaml.Graph
