import Assay.Proofs.Matching.Account
import Assay.Proofs.Matching.Exchange
import Assay.Proofs.Matching.Optimality
import Mathlib.Data.Finset.Sort

/-!
# Which diagnostics are taken

Many pairings can leave every expectation the standing that the report gives it, matched or with a
wrong message. Among them, earlier diagnostics are meant to be preferred: in ascending order, the
diagnostics in the pairs are to come first in the lexicographic order, so that those that are left
over are the latest ones (`PrefersEarlier`).

The report does so exactly if its owners are settled, that is, if no diagnostic that is left over
could be taken at the cost of a later one. They are settled as long as no expectation is moved from
one diagnostic to another on the way. One that is moved looks for the next diagnostic of its own,
although the one who moved it might have had an earlier one (`not_prefersEarlier`).
-/

namespace Assay.Matching

variable {expected : List Expectation} {actual : List Diagnostic} {t : Text}

/-! ## The first difference -/

theorem notMem_cons_of_lt {a x : Nat} {l : List Nat} (h : (a :: l).Pairwise (· < ·)) (hx : x < a) :
    x ∉ a :: l := by
  intro hmem
  rcases List.mem_cons.mp hmem with rfl | hmem
  · exact Nat.lt_irrefl _ hx
  · exact Nat.lt_asymm hx ((List.pairwise_cons.mp h).1 x hmem)

/-- Of two ascending lists of one length, the first difference decides, and the lesser list has the
number there. -/
theorem lex_iff_of_ascending {l l' : List Nat} (h : l.Pairwise (· < ·)) (h' : l'.Pairwise (· < ·))
    (hlength : l.length = l'.length) :
    List.Lex (· < ·) l l' ↔ ∃ m ∈ l, m ∉ l' ∧ ∀ x < m, (x ∈ l ↔ x ∈ l') := by
  induction l generalizing l' with
  | nil =>
    obtain rfl := List.length_eq_zero_iff.mp hlength.symm
    simp
  | cons a l ih =>
    obtain - | ⟨b, l'⟩ := l'
    · cases hlength
    rw [List.cons_lex_cons_iff]
    rcases Nat.lt_trichotomy a b with hlt | rfl | hlt
    · refine iff_of_true (Or.inl hlt) ⟨a, List.mem_cons_self, notMem_cons_of_lt h' hlt, ?_⟩
      intro x hx
      exact iff_of_false (notMem_cons_of_lt h hx) (notMem_cons_of_lt h' (hx.trans hlt))
    · obtain ⟨ha, hl⟩ := List.pairwise_cons.mp h
      obtain ⟨ha', hl'⟩ := List.pairwise_cons.mp h'
      rw [or_iff_right (Nat.lt_irrefl a), and_iff_right rfl, ih hl hl' (Nat.succ.inj hlength)]
      constructor
      · rintro ⟨m, hm, hm', hbelow⟩
        refine ⟨m, List.mem_cons_of_mem _ hm, ?_, fun x hx => ?_⟩
        · rw [List.mem_cons, not_or]
          exact ⟨(ha m hm).ne', hm'⟩
        · rw [List.mem_cons, List.mem_cons, hbelow x hx]
      · rintro ⟨m, hm, hm', hbelow⟩
        rw [List.mem_cons, not_or] at hm'
        refine ⟨m, List.mem_of_ne_of_mem hm'.1 hm, hm'.2, fun x hx => ?_⟩
        by_cases hxa : x = a
        · subst hxa
          exact iff_of_false (fun hmem => Nat.lt_irrefl _ (ha x hmem))
            fun hmem => Nat.lt_irrefl _ (ha' x hmem)
        · have hiff := hbelow x hx
          rwa [List.mem_cons, List.mem_cons, or_iff_right hxa, or_iff_right hxa] at hiff
    · -- the other list begins with a number that this one lacks
      refine iff_of_false ?_ ?_
      · rintro (hlt' | ⟨rfl, -⟩)
        · exact Nat.lt_asymm hlt hlt'
        · exact Nat.lt_irrefl _ hlt
      · rintro ⟨m, hm, -, hbelow⟩
        have hle : a ≤ m := Nat.le_of_not_lt fun hma => notMem_cons_of_lt h hma hm
        exact notMem_cons_of_lt h hlt ((hbelow b (hlt.trans_le hle)).mpr List.mem_cons_self)

/-- The least number in which two sets differ is in the first one. -/
def DiffersFirst (s s' : Finset Nat) : Prop := ∃ m ∈ s, m ∉ s' ∧ ∀ x < m, (x ∈ s ↔ x ∈ s')

theorem lex_sort_iff {s s' : Finset Nat} (hcard : s.card = s'.card) :
    List.Lex (· < ·) (s.sort (· ≤ ·)) (s'.sort (· ≤ ·)) ↔ DiffersFirst s s' := by
  rw [lex_iff_of_ascending (s.sortedLT_sort).pairwise (s'.sortedLT_sort).pairwise
    (by rw [Finset.length_sort, Finset.length_sort, hcard])]
  simp only [Finset.mem_sort, DiffersFirst]

/-- Of what is left over of the first numbers, the greater list belongs to the lesser set. -/
theorem lex_filter_notMem_iff {s s' : Finset Nat} {n : Nat} (hs : s ⊆ Finset.range n)
    (hs' : s' ⊆ Finset.range n) (hcard : s.card = s'.card) :
    List.Lex (· < ·) ((List.range n).filter (· ∉ s')) ((List.range n).filter (· ∉ s)) ↔
      DiffersFirst s s' := by
  have hlength {r : Finset Nat} (hr : r ⊆ Finset.range n) :
      ((List.range n).filter (· ∉ r)).length = n - r.card := by
    have hrest : ((List.range n).filter (· ∉ r)).toFinset = Finset.range n \ r := by
      ext x
      simp
    rw [← List.toFinset_card_of_nodup (List.nodup_range.filter _), hrest,
      Finset.card_sdiff_of_subset hr, Finset.card_range]
  rw [lex_iff_of_ascending (List.pairwise_lt_range.filter _) (List.pairwise_lt_range.filter _)
    (by rw [hlength hs, hlength hs', hcard])]
  simp only [List.mem_filter, List.mem_range, decide_eq_true_eq, DiffersFirst]
  constructor
  · rintro ⟨m, ⟨hm, hm'⟩, hnot, hbelow⟩
    refine ⟨m, by_contra fun hout => hnot ⟨hm, hout⟩, hm', fun x hx => ?_⟩
    have hiff := hbelow x hx
    have hxn := hx.trans hm
    tauto
  · rintro ⟨m, hm, hm', hbelow⟩
    have hlt := Finset.mem_range.mp (hs hm)
    exact ⟨m, ⟨hlt, hm'⟩, fun hnot => hnot.2 hm, fun x hx => by rw [hbelow x hx]⟩

/-- With a number in the place of a later one, a set comes first. -/
theorem differsFirst_insert_erase {s : Finset Nat} {free freed : Nat} (hfree : free ∉ s)
    (hlt : free < freed) : DiffersFirst (insert free (s.erase freed)) s := by
  refine ⟨free, Finset.mem_insert_self _ _, hfree, fun x hx => ?_⟩
  rw [Finset.mem_insert, Finset.mem_erase, or_iff_right hx.ne, and_iff_right (hx.trans hlt).ne]

/-! ## Pairings of the same standing -/

/-- The diagnostics in the pairs of a report. -/
def Report.consumed (r : Report) : Finset Nat :=
  ((r.matched ++ r.wrongMessage).map Prod.snd).toFinset

/-- A pairing in which the same expectations are matched as in the report and the same ones have a
wrong message. -/
structure SameStanding (expected : List Expectation) (actual : List Diagnostic) (t : Text)
    (pairs : Finset (Nat × Nat)) : Prop where
  pairing : Pairing (fun e d => e.locates t d) expected actual pairs
  matched : (pairs.filter fun p => agreesAt expected actual p.1 p.2 = true).image Prod.fst
    = ((matchDiagnostics expected actual t).matched.map Prod.fst).toFinset
  wrongMessage : (pairs.filter fun p => ¬ agreesAt expected actual p.1 p.2 = true).image Prod.fst
    = ((matchDiagnostics expected actual t).wrongMessage.map Prod.fst).toFinset

/-- No pairing of the same standing has earlier diagnostics, and none leaves later ones over. -/
def PrefersEarlier (expected : List Expectation) (actual : List Diagnostic) (t : Text) : Prop :=
  ∀ pairs, SameStanding expected actual t pairs →
    ¬ List.Lex (· < ·) ((pairs.image Prod.snd).sort (· ≤ ·))
        ((matchDiagnostics expected actual t).consumed.sort (· ≤ ·)) ∧
      ¬ List.Lex (· < ·) (matchDiagnostics expected actual t).unexpected
        ((List.range actual.length).filter (· ∉ pairs.image Prod.snd))

theorem mem_consumed_iff {j : Nat} :
    j ∈ (matchDiagnostics expected actual t).consumed ↔
      ∃ i, (bothRounds expected actual t).owner? j = some i := by
  simp only [Report.consumed, List.mem_toFinset, List.mem_map, Prod.exists, exists_eq_right,
    mem_matched_append_wrongMessage_iff]

theorem consumed_subset :
    (matchDiagnostics expected actual t).consumed ⊆ Finset.range actual.length := by
  intro j hj
  obtain ⟨i, ho⟩ := mem_consumed_iff.mp hj
  exact Finset.mem_range.mpr (lt_of_owner? ho).2

theorem notMem_consumed_iff {j : Nat} :
    j ∉ (matchDiagnostics expected actual t).consumed ↔
      (bothRounds expected actual t).owner? j = none := by
  rw [mem_consumed_iff, not_exists, Option.eq_none_iff_forall_ne_some]

theorem unexpected_eq :
    (matchDiagnostics expected actual t).unexpected
      = (List.range actual.length).filter (· ∉ (matchDiagnostics expected actual t).consumed) := by
  refine List.filter_congr fun j _ => ?_
  rw [Bool.eq_iff_iff, Option.isNone_iff_eq_none, decide_eq_true_eq, notMem_consumed_iff]

theorem card_consumed :
    (matchDiagnostics expected actual t).consumed.card
      = (bothRounds expected actual t).seekers.card := by
  rw [← bothRounds_along.1.card_owned lt_of_mem_fallbackEdges]
  congr 1
  ext j
  rw [mem_consumed_iff, Finset.mem_filter, Finset.mem_range, Option.isSome_iff_exists]
  exact ⟨fun h => ⟨h.elim fun _ ho => (lt_of_owner? ho).2, h⟩, fun h => h.2⟩

theorem toFinset_map_fst_wrongMessage :
    ((matchDiagnostics expected actual t).wrongMessage.map Prod.fst).toFinset
      = (bothRounds expected actual t).seekers \ (firstRound expected actual t).seekers := by
  rw [map_fst_wrongMessage]
  exact toFinset_filter_mem fun i hi => mem_range_of_seekers (Finset.mem_sdiff.mp hi).1

/-- In a pairing of all that have a diagnostic, in which the matched expectations keep their
messages, no other one gets its message as well: it would have been matched. -/
theorem Pairing.agreesAt_iff {pairs : Finset (Nat × Nat)}
    (h : Pairing (fun e d => e.locates t d) expected actual pairs)
    (hedge : ∀ p ∈ pairs, p.2 ∈ fallbackEdges expected actual t p.1)
    (himage : pairs.image Prod.fst = (bothRounds expected actual t).seekers) {p : Nat × Nat}
    (hp : p ∈ pairs) :
    agreesAt expected actual p.1 p.2 = true ↔ p.1 ∈ (firstRound expected actual t).seekers := by
  have hexact {q : Nat × Nat} (hq : q ∈ pairs) (hi : q.1 ∈ (firstRound expected actual t).seekers) :
      q.2 ∈ exactEdges expected actual t q.1 :=
    fallbackEdges_of_met hi ▸ hedge q hq
  constructor
  · intro hagree
    have hseeker : p.1 ∈ (bothRounds expected actual t).seekers :=
      himage ▸ Finset.mem_image_of_mem _ hp
    refine mem_seekers_firstRound (lt_of_mem_seekers hseeker) ?_
    refine placeable_of_exists (fun i j => (i, j) ∈ pairs)
      (fun hi hj => congrArg Prod.fst (h.right hi hj rfl)) fun i hi => ?_
    rcases Finset.mem_insert.mp hi with rfl | hi
    · exact ⟨p.2, mem_exactEdges_iff.mpr ⟨h.mem_edgesOf hp, hagree⟩, hp⟩
    · obtain ⟨q, hq, rfl⟩ := Finset.mem_image.mp (himage ▸ seekers_firstRound_subset hi)
      exact ⟨q.2, hexact hq hi, hq⟩
  · intro hi
    exact (mem_exactEdges_iff.mp (hexact hp hi)).2

namespace SameStanding

variable {pairs : Finset (Nat × Nat)}

theorem image_fst (h : SameStanding expected actual t pairs) :
    pairs.image Prod.fst = (bothRounds expected actual t).seekers := by
  rw [← Finset.filter_union_filter_not_eq
      (fun p : Nat × Nat => agreesAt expected actual p.1 p.2 = true) pairs,
    Finset.image_union, h.matched, h.wrongMessage, toFinset_map_fst_matched,
    toFinset_map_fst_wrongMessage, Finset.union_sdiff_of_subset seekers_firstRound_subset]

/-- The matched expectations keep their messages. -/
theorem mem_fallbackEdges (h : SameStanding expected actual t pairs) {p : Nat × Nat}
    (hp : p ∈ pairs) : p.2 ∈ fallbackEdges expected actual t p.1 := by
  have hlocated := h.pairing.mem_edgesOf hp
  by_cases hmet : p.1 ∈ (firstRound expected actual t).seekers
  · rw [← toFinset_map_fst_matched, ← h.matched] at hmet
    obtain ⟨q, hq, heq⟩ := Finset.mem_image.mp hmet
    obtain ⟨hq, hagree⟩ := Finset.mem_filter.mp hq
    obtain rfl := h.pairing.left hq hp heq
    exact exactEdges_subset_fallbackEdges (mem_exactEdges_iff.mpr ⟨hlocated, hagree⟩)
  · rw [fallbackEdges_of_unmet hmet]
    exact hlocated

theorem card_image_snd (h : SameStanding expected actual t pairs) :
    (pairs.image Prod.snd).card = (matchDiagnostics expected actual t).consumed.card := by
  rw [card_consumed, ← h.image_fst, h.pairing.card_image_fst]
  exact Finset.card_image_of_injOn h.pairing.right

theorem image_snd_subset (h : SameStanding expected actual t pairs) :
    pairs.image Prod.snd ⊆ Finset.range actual.length := by
  intro j hj
  obtain ⟨p, hp, rfl⟩ := Finset.mem_image.mp hj
  exact Finset.mem_range.mpr (lt_of_mem_fallbackEdges (h.mem_fallbackEdges hp))

/-- **A pairing leaves the expectations their standing** if all that have a diagnostic get one and
the matched ones keep their messages. -/
theorem of_mem_fallbackEdges (hpairing : Pairing (fun e d => e.locates t d) expected actual pairs)
    (hedge : ∀ p ∈ pairs, p.2 ∈ fallbackEdges expected actual t p.1)
    (himage : pairs.image Prod.fst = (bothRounds expected actual t).seekers) :
    SameStanding expected actual t pairs := by
  have hagrees {p : Nat × Nat} (hp : p ∈ pairs) := hpairing.agreesAt_iff hedge himage hp
  have hpair {i : Nat} (hi : i ∈ (bothRounds expected actual t).seekers) : ∃ p ∈ pairs, p.1 = i :=
    Finset.mem_image.mp (himage ▸ hi)
  refine ⟨hpairing, ?_, ?_⟩
  · rw [toFinset_map_fst_matched]
    ext i
    simp only [Finset.mem_image, Finset.mem_filter]
    constructor
    · rintro ⟨p, ⟨hp, hagree⟩, rfl⟩
      exact (hagrees hp).mp hagree
    · intro hi
      obtain ⟨p, hp, rfl⟩ := hpair (seekers_firstRound_subset hi)
      exact ⟨p, ⟨hp, (hagrees hp).mpr hi⟩, rfl⟩
  · rw [toFinset_map_fst_wrongMessage]
    ext i
    simp only [Finset.mem_image, Finset.mem_filter, Finset.mem_sdiff]
    constructor
    · rintro ⟨p, ⟨hp, hagree⟩, rfl⟩
      exact ⟨himage ▸ Finset.mem_image_of_mem _ hp, fun hi => hagree ((hagrees hp).mpr hi)⟩
    · rintro ⟨hi, hnot⟩
      obtain ⟨p, hp, rfl⟩ := hpair hi
      exact ⟨p, ⟨hp, fun hagree => hnot ((hagrees hp).mp hagree)⟩, rfl⟩

end SameStanding

theorem prefersEarlier_iff_not_differsFirst :
    PrefersEarlier expected actual t ↔ ∀ pairs, SameStanding expected actual t pairs →
      ¬ DiffersFirst (pairs.image Prod.snd) (matchDiagnostics expected actual t).consumed := by
  refine forall_congr' fun pairs => forall_congr' fun h => ?_
  rw [unexpected_eq, lex_sort_iff h.card_image_snd,
    lex_filter_notMem_iff h.image_snd_subset consumed_subset h.card_image_snd, and_self]

/-! ## Settled owners -/

/-- Where the owners are settled, no pairing of the same standing has an earlier diagnostic. -/
theorem prefersEarlier_of_settled
    (h : (bothRounds expected actual t).Settled (fallbackEdges expected actual t)) :
    PrefersEarlier expected actual t := by
  rw [prefersEarlier_iff_not_differsFirst]
  rintro pairs hpairs ⟨m, hm, hnot, hbelow⟩
  obtain ⟨freed, howned, hout, hshifts⟩ :=
    exists_shifts_of_placed hpairs.pairing.left (fun p hp => hpairs.mem_fallbackEdges hp)
      hpairs.image_fst (notMem_consumed_iff.mp hnot) hm
  have hlt := h m freed (notMem_consumed_iff.mp hnot) hshifts
  exact hout ((hbelow freed hlt).mpr (mem_consumed_iff.mpr howned))

/-- A pairing of the same standing that takes one diagnostic of those left over, and does not take a
certain other one, takes the one in the place of the other. -/
theorem SameStanding.image_snd_of_exchange {pairs : Finset (Nat × Nat)} {free freed : Nat}
    (h : SameStanding expected actual t pairs)
    (hfreed : freed ∈ (matchDiagnostics expected actual t).consumed)
    (hedge : ∀ p ∈ pairs, p.2 ∈ exchangeEdges (fallbackEdges expected actual t)
      (bothRounds expected actual t) free freed p.1) :
    pairs.image Prod.snd
      = insert free ((matchDiagnostics expected actual t).consumed.erase freed) := by
  refine Finset.eq_of_subset_of_card_le ?_ ?_
  · intro j hj
    obtain ⟨p, hp, rfl⟩ := Finset.mem_image.mp hj
    rcases (mem_exchangeEdges.mp (hedge p hp)).2 with heq | ⟨hne, hsome⟩
    · exact Finset.mem_insert.mpr (Or.inl heq)
    · have hold := mem_consumed_iff.mpr (Option.isSome_iff_exists.mp hsome)
      exact Finset.mem_insert_of_mem (Finset.mem_erase.mpr ⟨hne, hold⟩)
  · rw [h.card_image_snd]
    refine (Finset.card_insert_le _ _).trans ?_
    rw [Finset.card_erase_add_one hfreed]

/-- Where a diagnostic that is left over can be taken at the cost of a later one, there is a pairing
of the same standing that does so. -/
theorem settled_of_prefersEarlier (h : PrefersEarlier expected actual t) :
    (bothRounds expected actual t).Settled (fallbackEdges expected actual t) := by
  intro free freed hfree hshifts
  obtain ⟨_, owner, howner, -⟩ := hshifts.exists_frees
  have hsub {i : Nat} : exchangeEdges (fallbackEdges expected actual t)
      (bothRounds expected actual t) free freed i ⊆ fallbackEdges expected actual t i :=
    fun _ hj => (mem_exchangeEdges.mp hj).1
  obtain ⟨pairs, hpairing, hedge, himage⟩ :=
    (bothRounds_along.1.placeable_of_shifts lt_of_mem_fallbackEdges hfree hshifts).exists_pairing
      fun _ _ => List.Subset.trans hsub fallbackEdges_subset_locatedEdges
  have hpairs : SameStanding expected actual t pairs :=
    .of_mem_fallbackEdges hpairing (fun p hp => hsub (hedge p hp)) himage
  by_contra hle
  refine prefersEarlier_iff_not_differsFirst.mp h pairs hpairs ?_
  rw [hpairs.image_snd_of_exchange (mem_consumed_iff.mpr ⟨owner, howner⟩) hedge]
  exact differsFirst_insert_erase (notMem_consumed_iff.mpr hfree)
    (Nat.lt_of_le_of_ne (Nat.le_of_not_lt hle) (Owners.ne_of_owned hfree howner))

/-! ## Runs that move nobody -/

theorem pairwise_edgesOf (test : Expectation → Diagnostic → Bool) (i : Nat) :
    (edgesOf test expected actual i).Pairwise (· < ·) := by
  unfold edgesOf
  split
  · exact .nil
  · exact List.pairwise_lt_range.filter _

theorem pairwise_fallbackEdges (i : Nat) :
    (fallbackEdges expected actual t i).Pairwise (· < ·) := by
  unfold fallbackEdges secondEdges
  split
  · exact pairwise_edgesOf _ i
  · exact pairwise_edgesOf _ i

/-- In neither round does an expectation lose the diagnostic that it has. -/
def MovesNobody (expected : List Expectation) (actual : List Diagnostic) (t : Text) : Prop :=
  Undisturbed (exactEdges expected actual t) actual.length .empty (List.range expected.length) ∧
    Undisturbed (fallbackEdges expected actual t) actual.length (firstRound expected actual t)
      (unmet expected actual t)

instance : Decidable (MovesNobody expected actual t) := inferInstanceAs (Decidable (_ ∧ _))

theorem settled_of_movesNobody (h : MovesNobody expected actual t) :
    (bothRounds expected actual t).Settled (fallbackEdges expected actual t) := by
  have hfirst : (firstRound expected actual t).Settled (exactEdges expected actual t) :=
    (Owners.settled_empty _).assignAll lt_of_mem_exactEdges (Owners.along_empty _)
      (pairwise_edgesOf _) List.nodup_range (by simp) h.1
  exact (hfirst.congr fun _ => fallbackEdges_of_met).assignAll lt_of_mem_fallbackEdges
    firstRound_along_fallbackEdges pairwise_fallbackEdges nodup_unmet
    (fun _ hi => (mem_unmet.mp hi).2) h.2

/-- **Earlier diagnostics are preferred exactly if no diagnostic that is left over can be taken at
the cost of a later one.** That is so if no expectation is moved on the way. -/
theorem prefersEarlier_iff_settled (expected : List Expectation) (actual : List Diagnostic)
    (t : Text) :
    (PrefersEarlier expected actual t ↔
      (bothRounds expected actual t).Settled (fallbackEdges expected actual t)) ∧
    (MovesNobody expected actual t → PrefersEarlier expected actual t) :=
  ⟨⟨settled_of_prefersEarlier, prefersEarlier_of_settled⟩,
    fun h => prefersEarlier_of_settled (settled_of_movesNobody h)⟩

/-- The third expectation finds both diagnostics that it tries first taken for good. It gets the one
of another message, and the last diagnostic is left over. -/
theorem prefersEarlier_iff_settled_unmoved :
    MovesNobody
      [⟨"A", .line 1, some "m"⟩, ⟨"A", .span ⟨0, 1⟩, some "x"⟩, ⟨"A", .line 1, some "z"⟩]
      [⟨"A", ⟨0, 1⟩, "x", .warning⟩, ⟨"A", ⟨0, 2⟩, "m", .warning⟩, ⟨"A", ⟨1, 2⟩, "y", .warning⟩,
        ⟨"A", ⟨0, 1⟩, "w", .warning⟩] ['a', 'b', 'c', '\n'] ∧
    PrefersEarlier
      [⟨"A", .line 1, some "m"⟩, ⟨"A", .span ⟨0, 1⟩, some "x"⟩, ⟨"A", .line 1, some "z"⟩]
      [⟨"A", ⟨0, 1⟩, "x", .warning⟩, ⟨"A", ⟨0, 2⟩, "m", .warning⟩, ⟨"A", ⟨1, 2⟩, "y", .warning⟩,
        ⟨"A", ⟨0, 1⟩, "w", .warning⟩] ['a', 'b', 'c', '\n'] := by
  have hmoves : MovesNobody
      [⟨"A", .line 1, some "m"⟩, ⟨"A", .span ⟨0, 1⟩, some "x"⟩, ⟨"A", .line 1, some "z"⟩]
      [⟨"A", ⟨0, 1⟩, "x", .warning⟩, ⟨"A", ⟨0, 2⟩, "m", .warning⟩, ⟨"A", ⟨1, 2⟩, "y", .warning⟩,
        ⟨"A", ⟨0, 1⟩, "w", .warning⟩] ['a', 'b', 'c', '\n'] := by decide
  exact ⟨hmoves, (prefersEarlier_iff_settled _ _ _).2 hmoves⟩

/-- The first expectation has the diagnostic 0. The second one could take the diagnostic 1, but it
tries the diagnostic 0 before, and the first one moves to the diagnostic 2. -/
theorem not_prefersEarlier :
    ¬ PrefersEarlier
      [⟨"A", .span ⟨0, 1⟩, none⟩, ⟨"A", .line 1, some "m"⟩]
      [⟨"A", ⟨0, 1⟩, "m", .warning⟩, ⟨"A", ⟨0, 2⟩, "m", .warning⟩, ⟨"A", ⟨0, 1⟩, "x", .warning⟩]
      ['a', 'b', 'c', '\n'] := by
  intro h
  have hpairs : SameStanding
      [⟨"A", .span ⟨0, 1⟩, none⟩, ⟨"A", .line 1, some "m"⟩]
      [⟨"A", ⟨0, 1⟩, "m", .warning⟩, ⟨"A", ⟨0, 2⟩, "m", .warning⟩, ⟨"A", ⟨0, 1⟩, "x", .warning⟩]
      ['a', 'b', 'c', '\n'] {(0, 0), (1, 1)} :=
    ⟨⟨fun p hp => mem_edgesOf.mp (by revert p; decide), by decide, by decide⟩, by decide, by decide⟩
  refine (h _ hpairs).1 ((lex_sort_iff (by decide)).mpr ⟨1, by decide, by decide, ?_⟩)
  decide

end Assay.Matching
