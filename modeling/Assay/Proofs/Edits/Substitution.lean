import Assay.Proofs.Edits.Order

/-!
# Applying edits is substituting

What edits make of a text is said here for every offset of the text on its own: first the texts
inserted there, in the order of the list, then the text that replaces a stretch from there on, then
the character that is there if no edit takes it away. Sorting and applying the edits from the end of
the text backwards comes to the same (`applySorted_eq`): behind the end of an edit the text is
already what it shall be, and in front of it the text is still as it was.
-/

namespace Assay

namespace Edit

/-! ## The text that edits make -/

/-- The edits that only insert a text at an offset. -/
def insertsAt (edits : List Edit) (offset : Nat) : List Edit :=
  edits.filter fun e => e.span = ⟨offset, 0⟩

/-- The edits that replace a stretch from an offset on. -/
def replacementsAt (edits : List Edit) (offset : Nat) : List Edit :=
  edits.filter fun e => e.span.start = offset ∧ e.span.length ≠ 0

/-- The character at an offset, if there is one that no edit takes away. -/
def keptAt (t : Text) (edits : List Edit) (offset : Nat) : Text :=
  if edits.any fun e => e.span.contains offset then [] else t[offset]?.toList

/-- What stands for the place at an offset. -/
def substitutedAt (t : Text) (edits : List Edit) (offset : Nat) : Text :=
  (insertsAt edits offset ++ replacementsAt edits offset).flatMap newText ++ keptAt t edits offset

/-- The text in which all edits are made at once. -/
def substituted (t : Text) (edits : List Edit) : Text :=
  (List.range (t.length + 1)).flatMap (substitutedAt t edits)

variable {t : Text} {e : Edit} {edits rest : List Edit} {offset : Nat}

/-! ## One offset -/

theorem insertsAt_before (h : ∀ r ∈ edits, offset < r.span.start) :
    insertsAt edits offset = [] := by
  refine List.filter_eq_nil_iff.mpr fun r hr => ?_
  have hlt := h r hr
  rw [decide_eq_true_eq]
  intro hspan
  rw [hspan] at hlt
  exact Nat.lt_irrefl _ hlt

theorem replacementsAt_before (h : ∀ r ∈ edits, offset < r.span.start) :
    replacementsAt edits offset = [] := by
  refine List.filter_eq_nil_iff.mpr fun r hr => ?_
  have hlt := h r hr
  rw [decide_eq_true_eq]
  omega

/-- In front of all edits the text stays as it is. -/
theorem substitutedAt_before (h : ∀ r ∈ edits, offset < r.span.start) :
    substitutedAt t edits offset = t[offset]?.toList := by
  have hkept : ¬ (edits.any fun r => r.span.contains offset) = true := by
    rw [List.any_eq_true]
    rintro ⟨r, hr, hcontains⟩
    have hlt := h r hr
    rw [Span.contains_iff] at hcontains
    omega
  rw [substitutedAt, insertsAt_before h, replacementsAt_before h, keptAt, if_neg hkept]
  rfl

theorem keptAt_cons (t : Text) (e : Edit) (rest : List Edit) (offset : Nat) :
    keptAt t (e :: rest) offset = if e.span.contains offset then [] else keptAt t rest offset := by
  rw [keptAt, keptAt, List.any_cons]
  cases e.span.contains offset <;> rfl

/-- An edit that covers a place replaces. -/
theorem length_ne_zero_of_contains (h : e.span.contains offset = true) : e.span.length ≠ 0 := by
  intro hzero
  rw [Span.contains_iff, Span.stop] at h
  omega

/-- An edit that starts at a place without covering it inserts. -/
theorem span_eq_of_not_contains (h : ¬ e.span.contains offset = true)
    (hstart : e.span.start = offset) : e.span = ⟨offset, 0⟩ := by
  rw [Span.contains_iff, Span.stop] at h
  obtain ⟨⟨start, length⟩, newText⟩ := e
  simp only [Span.mk.injEq] at *
  omega

theorem insertsAt_cons_of_contains (h : e.span.contains offset = true) (rest : List Edit) :
    insertsAt (e :: rest) offset = insertsAt rest offset := by
  refine List.filter_cons_of_neg ?_
  rw [decide_eq_true_eq]
  intro hspan
  exact length_ne_zero_of_contains h (by rw [hspan])

theorem replacementsAt_cons_of_contains (h : e.span.contains offset = true) (rest : List Edit) :
    replacementsAt (e :: rest) offset
      = (if e.span.start = offset then [e] else []) ++ replacementsAt rest offset := by
  rw [replacementsAt, List.filter_cons, ← replacementsAt]
  simp only [length_ne_zero_of_contains h, ne_eq, not_false_eq_true, and_true, decide_eq_true_eq]
  split_ifs <;> rfl

theorem insertsAt_cons_of_not_contains (h : ¬ e.span.contains offset = true) (rest : List Edit) :
    insertsAt (e :: rest) offset
      = (if e.span.start = offset then [e] else []) ++ insertsAt rest offset := by
  have hiff : e.span = ⟨offset, 0⟩ ↔ e.span.start = offset :=
    ⟨fun hspan => by rw [hspan], span_eq_of_not_contains h⟩
  rw [insertsAt, List.filter_cons, ← insertsAt]
  simp only [hiff, decide_eq_true_eq]
  split_ifs <;> rfl

theorem replacementsAt_cons_of_not_contains (h : ¬ e.span.contains offset = true)
    (rest : List Edit) : replacementsAt (e :: rest) offset = replacementsAt rest offset := by
  refine List.filter_cons_of_neg ?_
  rw [decide_eq_true_eq]
  rintro ⟨hstart, hlength⟩
  exact hlength (by rw [span_eq_of_not_contains h hstart])

/-- An edit in front of all others puts its text at its start and takes away what it covers. -/
theorem substitutedAt_cons (h : ∀ r ∈ rest, e.span.stop ≤ r.span.start) (t : Text) (offset : Nat) :
    substitutedAt t (e :: rest) offset = (if e.span.start = offset then e.newText else []) ++
      if e.span.contains offset then [] else substitutedAt t rest offset := by
  have hput : (if e.span.start = offset then [e] else []).flatMap newText
      = if e.span.start = offset then e.newText else [] := by
    split_ifs
    · rw [List.flatMap_singleton]
    · rfl
  by_cases hcontains : e.span.contains offset = true
  · -- the others start behind the offset
    have hbehind : ∀ r ∈ rest, offset < r.span.start := fun r hr =>
      Nat.lt_of_lt_of_le (Span.contains_iff.mp hcontains).2 (h r hr)
    rw [substitutedAt, insertsAt_cons_of_contains hcontains, insertsAt_before hbehind,
      replacementsAt_cons_of_contains hcontains, replacementsAt_before hbehind, keptAt_cons,
      if_pos hcontains, if_pos hcontains, List.nil_append, List.flatMap_append, hput,
      List.flatMap_nil, List.append_nil, List.append_nil]
  · rw [substitutedAt, insertsAt_cons_of_not_contains hcontains,
      replacementsAt_cons_of_not_contains hcontains, keptAt_cons, if_neg hcontains,
      if_neg hcontains, List.append_assoc, List.flatMap_append, hput, List.append_assoc,
      substitutedAt]

/-! ## From an offset on -/

/-- What stands for the text from an offset on. -/
def substitutedFrom (t : Text) (edits : List Edit) (offset : Nat) : Text :=
  (List.range' offset (t.length + 1 - offset)).flatMap (substitutedAt t edits)

theorem substitutedFrom_zero (t : Text) (edits : List Edit) :
    substitutedFrom t edits 0 = substituted t edits := by
  rw [substituted, List.range_eq_range']
  rfl

theorem range'_split {first middle last : Nat} (hfirst : first ≤ middle) (hlast : middle ≤ last) :
    List.range' first (last - first)
      = List.range' first (middle - first) ++ List.range' middle (last - middle) := by
  have hsplit := @List.range'_append_1 first (middle - first) (last - middle)
  rw [show first + (middle - first) = middle by omega,
    show middle - first + (last - middle) = last - first by omega] at hsplit
  exact hsplit.symm

theorem flatMap_getElem?_range' (t : Text) (offset count : Nat) :
    (List.range' offset count).flatMap (fun o => t[o]?.toList) = t.slice offset count := by
  induction count generalizing offset with
  | zero => rfl
  | succ count ih =>
    rw [List.range'_succ, List.flatMap_cons, ih, Text.slice, Text.slice]
    by_cases hlt : offset < t.length
    · rw [List.drop_eq_getElem_cons hlt, List.getElem?_eq_getElem hlt]
      rfl
    · rw [List.getElem?_eq_none (by omega), List.drop_eq_nil_of_le (by omega),
        List.drop_eq_nil_of_le (by omega), List.take_nil, List.take_nil]
      rfl

/-- Up to where the first edit starts, the text stays as it is. -/
theorem substitutedFrom_before (next : Nat) (hle : offset ≤ next) (hlength : next ≤ t.length + 1)
    (h : ∀ r ∈ edits, next ≤ r.span.start) :
    substitutedFrom t edits offset
      = t.slice offset (next - offset) ++ substitutedFrom t edits next := by
  have hunchanged : (List.range' offset (next - offset)).flatMap (substitutedAt t edits)
      = (List.range' offset (next - offset)).flatMap fun o => t[o]?.toList := by
    refine List.flatMap_congr fun o ho => ?_
    rw [List.mem_range'_1] at ho
    refine substitutedAt_before fun r hr => ?_
    have hstart := h r hr
    omega
  rw [substitutedFrom, range'_split hle hlength, List.flatMap_append, hunchanged,
    flatMap_getElem?_range', substitutedFrom]

/-- From the start of the first edit on there is its text, and then what stands behind its end. -/
theorem substitutedFrom_cons (h : ∀ r ∈ rest, e.span.stop ≤ r.span.start)
    (hstop : e.span.stop ≤ t.length) : substitutedFrom t (e :: rest) e.span.start
      = e.newText ++ substitutedFrom t rest e.span.stop := by
  have hle := e.span.start_le_stop
  let behind (o : Nat) : Text := if e.span.contains o then [] else substitutedAt t rest o
  have hfirst : substitutedFrom t (e :: rest) e.span.start
      = e.newText ++ (List.range' e.span.start (t.length + 1 - e.span.start)).flatMap behind := by
    rw [substitutedFrom, show t.length + 1 - e.span.start = t.length - e.span.start + 1 by omega,
      List.range'_succ, List.flatMap_cons, List.flatMap_cons, substitutedAt_cons h, if_pos rfl,
      List.append_assoc]
    congr 2
    refine List.flatMap_congr fun o ho => ?_
    rw [List.mem_range'_1] at ho
    rw [substitutedAt_cons h, if_neg (by omega)]
    rfl
  have hcovered : (List.range' e.span.start (e.span.stop - e.span.start)).flatMap behind = [] := by
    refine List.flatMap_eq_nil_iff.mpr fun o ho => ?_
    rw [List.mem_range'_1] at ho
    exact if_pos (Span.contains_iff.mpr (by omega))
  have hbehind : (List.range' e.span.stop (t.length + 1 - e.span.stop)).flatMap behind
      = substitutedFrom t rest e.span.stop := by
    refine List.flatMap_congr fun o ho => ?_
    rw [List.mem_range'_1] at ho
    refine if_neg fun hcontains => ?_
    rw [Span.contains_iff] at hcontains
    omega
  rw [hfirst, range'_split hle (by omega), List.flatMap_append, hcovered, hbehind, List.nil_append]

/-- Without edits the text stays as it is. -/
theorem substitutedFrom_nil (h : offset ≤ t.length) :
    substitutedFrom t [] offset = t.drop offset := by
  rw [substitutedFrom_before (t.length + 1) (by omega) (Nat.le_refl _) (by simp),
    substitutedFrom, Nat.sub_self, List.range'_zero, List.flatMap_nil, List.append_nil,
    Text.slice, List.take_of_length_le]
  rw [List.length_drop]
  omega

/-! ## Applying sorted edits -/

theorem applyEdits_singleton (t : Text) (e : Edit) : applyEdits t [e] = e.apply t := by
  rw [applyEdits, List.mergeSort_singleton]
  rfl

theorem applySorted_cons (t : Text) (e : Edit) (rest : List Edit) :
    applySorted t (e :: rest) = (applySorted t rest).bind e.apply := rfl

/-- An edit only needs the text up to its end to be as it was. -/
theorem apply_take_append (hstop : e.span.stop ≤ t.length) (behind : Text) :
    e.apply (t.take e.span.stop ++ behind) = .ok (t.take e.span.start ++ e.newText ++ behind) := by
  have hle := e.span.start_le_stop
  have hlength : (t.take e.span.stop).length = e.span.stop := by
    rw [List.length_take]
    omega
  rw [apply, if_neg (by rw [List.length_append, hlength]; omega),
    List.take_append_of_le_length (by omega), List.take_take, Nat.min_eq_left hle,
    List.drop_left' hlength]

/-- **Edits that are apart and in order are applied as if all at once.** In front of the first one
the text stays as it is. -/
theorem applySorted_eq (hapart : edits.Pairwise fun a b => a.span.stop ≤ b.span.start)
    (hinside : ∀ e ∈ edits, e.span.stop ≤ t.length) (hoffset : offset ≤ t.length)
    (hstart : ∀ e ∈ edits, offset ≤ e.span.start) :
    applySorted t edits = .ok (t.take offset ++ substitutedFrom t edits offset) := by
  induction edits generalizing offset with
  | nil =>
    rw [substitutedFrom_nil hoffset, List.take_append_drop]
    rfl
  | cons e rest ih =>
    have hle := e.span.start_le_stop
    have hstop := hinside e List.mem_cons_self
    have hbefore := hstart e List.mem_cons_self
    have hrest := (List.pairwise_cons.mp hapart).1
    have hinside := fun r hr => hinside r (List.mem_cons_of_mem e hr)
    have hbehind := ih hapart.of_cons hinside hstop hrest
    have hfront : t.take e.span.start
        = t.take offset ++ t.slice offset (e.span.start - offset) := by
      rw [Text.slice, ← List.take_add, Nat.add_sub_cancel' hbefore]
    have hwhole : ∀ r ∈ e :: rest, e.span.start ≤ r.span.start := by
      intro r hr
      rcases List.mem_cons.mp hr with rfl | hr
      · exact Nat.le_refl _
      · exact Nat.le_trans hle (hrest r hr)
    calc applySorted t (e :: rest)
        = (applySorted t rest).bind e.apply := applySorted_cons t e rest
      _ = .ok (t.take e.span.start ++ e.newText ++ substitutedFrom t rest e.span.stop) := by
          rw [hbehind]
          exact apply_take_append hstop _
      _ = .ok (t.take offset ++ substitutedFrom t (e :: rest) offset) := by
          rw [substitutedFrom_before e.span.start hbefore (by omega) hwhole,
            substitutedFrom_cons hrest hstop, hfront]
          simp only [List.append_assoc]

/-- After an error no edit is applied. -/
theorem applySorted_append_of_error {behind : List Edit} {error : Error}
    (h : applySorted t behind = .error error) (front : List Edit) :
    applySorted t (front ++ behind) = .error error := by
  induction front with
  | nil => exact h
  | cons e front ih =>
    rw [List.cons_append, applySorted_cons, ih]
    rfl

/-- If an edit ends beyond the text, the last one does, which is the first to be applied. -/
theorem applySorted_outside (hapart : edits.Pairwise fun a b => a.span.stop ≤ b.span.start)
    (houtside : ∃ e ∈ edits, t.length < e.span.stop) :
    ∃ e, edits.getLast? = some e ∧ applySorted t edits = .error (.outside e.span) := by
  obtain ⟨e, he, hlt⟩ := houtside
  rcases List.eq_nil_or_concat edits with rfl | ⟨front, last, rfl⟩
  · cases he
  rw [List.concat_eq_append] at *
  have hlast : t.length < last.span.stop := by
    have hle := last.span.start_le_stop
    rcases List.mem_append.mp he with he | he
    · have hstop := (List.pairwise_append.mp hapart).2.2 e he last List.mem_cons_self
      omega
    · rwa [← List.mem_singleton.mp he]
  have herror : applySorted t [last] = .error (.outside last.span) := if_pos hlast
  exact ⟨last, List.getLast?_concat, applySorted_append_of_error herror front⟩

/-! ## The order in which edits are listed -/

/-- No two edits that are clear of each other replace stretches from one offset on. -/
theorem pairwise_replacementsAt (hclear : edits.Pairwise Clear) (offset : Nat) :
    (replacementsAt edits offset).Pairwise fun _ _ => False := by
  refine List.pairwise_filter.mpr (hclear.imp fun {a b} hab ha hb => ?_)
  rw [decide_eq_true_eq] at ha hb
  simp only [Clear, placedBefore_iff, Span.stop] at hab
  omega

theorem eq_of_perm_of_pairwise_false {l l' : List Edit} (hperm : l'.Perm l)
    (hl : l.Pairwise fun _ _ => False) : l' = l := by
  match l with
  | [] => exact hperm.eq_nil
  | [a] => exact hperm.eq_singleton
  | a :: b :: l => exact (List.rel_of_pairwise_cons hl List.mem_cons_self).elim

/-- What edits make of a text depends on their order only where texts are inserted at one place. -/
theorem substituted_of_perm {edits' : List Edit} (hperm : edits'.Perm edits)
    (hinserts : ∀ offset, insertsAt edits' offset = insertsAt edits offset)
    (hclear : edits.Pairwise Clear) (t : Text) : substituted t edits' = substituted t edits := by
  rw [substituted, substituted]
  congr 1
  funext offset
  have hreplacements : replacementsAt edits' offset = replacementsAt edits offset :=
    eq_of_perm_of_pairwise_false (hperm.filter _) (pairwise_replacementsAt hclear offset)
  rw [substitutedAt, substitutedAt, hinserts, hreplacements, keptAt, keptAt, hperm.any_eq]

theorem insertsAt_inOrder (edits : List Edit) (offset : Nat) :
    insertsAt (inOrder edits) offset = insertsAt edits offset := by
  refine filter_inOrder (fun a b ha hb => ?_) edits
  rw [decide_eq_true_eq] at ha hb
  rw [ha, hb]

/-! ## What applying edits comes to -/

/-- Whether some edit ends beyond the text. -/
def Outside (t : Text) (edits : List Edit) : Prop := ∃ e ∈ edits, t.length < e.span.stop

theorem Outside.of_perm {edits' : List Edit} (hperm : edits'.Perm edits) (h : Outside t edits) :
    Outside t edits' :=
  h.imp fun _ he => ⟨hperm.mem_iff.mpr he.1, he.2⟩

theorem pairwise_apart (h : ¬ Collide edits) :
    (inOrder edits).Pairwise fun a b => a.span.stop ≤ b.span.start :=
  (pairwise_inOrder_iff edits).mpr ((not_collide_iff edits).mp h)

theorem applyEdits_of_collide (h : Collide edits) :
    ∃ first second, overlap? (inOrder edits) = some (first, second) ∧
      ∀ t, applyEdits t edits = .error (.overlap first second) := by
  cases hoverlap : overlap? (inOrder edits) with
  | none => exact absurd h ((overlap?_inOrder_eq_none_iff edits).mp hoverlap)
  | some pair =>
    refine ⟨pair.1, pair.2, rfl, fun t => ?_⟩
    rw [applyEdits, ← inOrder, hoverlap]

theorem applyEdits_of_not_collide (h : ¬ Collide edits) (t : Text) :
    applyEdits t edits = applySorted t (inOrder edits) := by
  rw [applyEdits, ← inOrder, (overlap?_inOrder_eq_none_iff edits).mpr h]

theorem applyEdits_of_outside (h : ¬ Collide edits) (houtside : Outside t edits) :
    ∃ e, (inOrder edits).getLast? = some e ∧ applyEdits t edits = .error (.outside e.span) := by
  rw [applyEdits_of_not_collide h]
  exact applySorted_outside (pairwise_apart h) (houtside.of_perm (inOrder_perm edits))

theorem applyEdits_of_fits (h : ¬ Collide edits) (hinside : ¬ Outside t edits) :
    applyEdits t edits = .ok (substituted t edits) := by
  have hstop : ∀ e ∈ inOrder edits, e.span.stop ≤ t.length := fun e he =>
    Nat.le_of_not_lt fun hlt => hinside ⟨e, (inOrder_perm edits).mem_iff.mp he, hlt⟩
  rw [applyEdits_of_not_collide h, applySorted_eq (pairwise_apart h) hstop (Nat.zero_le _)
    fun e _ => Nat.zero_le _, substitutedFrom_zero, List.take_zero, List.nil_append,
    substituted_of_perm (inOrder_perm edits) (insertsAt_inOrder edits)
      ((not_collide_iff edits).mp h)]

/-- Applying edits in another order gives the same text or the same error. -/
theorem applyEdits_of_perm {edits' : List Edit} (hperm : edits'.Perm edits)
    (hinserts : ∀ offset, insertsAt edits' offset = insertsAt edits offset) :
    applyEdits t edits' = applyEdits t edits := by
  have hspans := map_span_inOrder hperm
  have hcollide : Collide edits' ↔ Collide edits := by
    rw [← not_iff_not, not_collide_iff, not_collide_iff]
    exact hperm.pairwise_iff Clear.symm
  by_cases h : Collide edits
  · obtain ⟨first, second, hoverlap, herror⟩ := applyEdits_of_collide h
    obtain ⟨first', second', hoverlap', herror'⟩ := applyEdits_of_collide (hcollide.mpr h)
    rw [overlap?_congr hspans, hoverlap] at hoverlap'
    cases hoverlap'
    rw [herror, herror']
  have h' : ¬ Collide edits' := hcollide.not.mpr h
  by_cases houtside : Outside t edits
  · obtain ⟨e, he, herror⟩ := applyEdits_of_outside h houtside
    obtain ⟨e', he', herror'⟩ := applyEdits_of_outside h' (houtside.of_perm hperm)
    have hlast := congrArg List.getLast? hspans
    rw [List.getLast?_map, List.getLast?_map, he, he'] at hlast
    rw [herror, herror', Option.some.inj hlast]
  · have hinside : ¬ Outside t edits' := fun hout => houtside (hout.of_perm hperm.symm)
    rw [applyEdits_of_fits h houtside, applyEdits_of_fits h' hinside,
      substituted_of_perm hperm hinserts ((not_collide_iff edits).mp h)]

end Edit

open Edit in
/-- **Applying edits is substituting all at once.** It fails if and only if an edit ends beyond the
text or two edits collide; and the order of the list matters only among texts inserted at one
place. -/
theorem applyEdits_substitutes (t : Text) (edits : List Edit) :
    ((∃ e, applyEdits t edits = .error e) ↔ Outside t edits ∨ Collide edits) ∧
      (¬ (Outside t edits ∨ Collide edits) → applyEdits t edits = .ok (substituted t edits)) ∧
      ∀ edits', edits'.Perm edits →
        (∀ offset, insertsAt edits' offset = insertsAt edits offset) →
        applyEdits t edits' = applyEdits t edits := by
  have hfits (h : ¬ (Outside t edits ∨ Collide edits)) :
      applyEdits t edits = .ok (substituted t edits) :=
    applyEdits_of_fits (fun hcollide => h (Or.inr hcollide)) fun hout => h (Or.inl hout)
  refine ⟨⟨?_, ?_⟩, hfits, fun _ hperm hinserts => applyEdits_of_perm hperm hinserts⟩
  · rintro ⟨e, he⟩
    by_contra h
    rw [hfits h] at he
    cases he
  · intro h
    by_cases hcollide : Collide edits
    · obtain ⟨first, second, _, herror⟩ := applyEdits_of_collide hcollide
      exact ⟨_, herror t⟩
    · obtain ⟨e, _, herror⟩ := applyEdits_of_outside hcollide (h.resolve_right hcollide)
      exact ⟨_, herror⟩

/-- Two texts inserted in front of a stretch that is replaced. -/
example : applyEdits "abc".toList [⟨⟨1, 1⟩, ['y']⟩, ⟨⟨1, 0⟩, ['w']⟩, ⟨⟨1, 0⟩, ['x']⟩]
    = .ok "awxyc".toList := by
  cbv

end Assay
