import Assay.Proofs.Markup.Roundtrip

/-!
# What can be marked

Which marked texts can be read is a matter of the delimiters that a scan from left to right comes
upon (`Delimiters.Scans`). A text can be read exactly if these are an opening and a closing one in
turn. If not, reading complains about the first of them that is out of turn, or else about the one
that is left open at the end (`parse_follows_turns`).

The scan is said here by where delimiters start in the source. That the pieces of a text have
just these delimiters is `Delimiters.scans_pieces`; the rest is about lists of occurrences.
-/

namespace Assay.Markup

/-! ## Occurrences of delimiters -/

/-- The two delimiters of a pair. -/
inductive Side where
  | opening
  | closing
  deriving DecidableEq, Repr

/-- A delimiter at an offset of the source. -/
structure Occurrence where
  side : Side
  offset : Nat
  deriving DecidableEq, Repr

/-- The delimiter of a side. -/
def Delimiters.sideText (d : Delimiters) : Side → Text
  | .opening => d.opening
  | .closing => d.closing

/-- The delimiter that is read at an offset: the one that starts there, and the opening one if both
do. -/
inductive Delimiters.Reads (d : Delimiters) (source : Text) (offset : Nat) : Side → Prop
  | opening (starts : d.opening <+: source.drop offset) : Reads d source offset .opening
  | closing (starts : d.closing <+: source.drop offset)
      (other : ¬ d.opening <+: source.drop offset) : Reads d source offset .closing

/-- What a scan from an offset comes upon: the first delimiter that starts there or behind, and then
what it comes upon from the end of that one. -/
inductive Delimiters.Scans (d : Delimiters) (source : Text) : Nat → List Occurrence → Prop
  | done {offset : Nat} (none : ∀ k, offset ≤ k → ¬ d.StartsAt source k) : Scans d source offset []
  | next {offset k : Nat} {side : Side} {rest : List Occurrence} (le : offset ≤ k)
      (first : ∀ j, offset ≤ j → j < k → ¬ d.StartsAt source j) (reads : d.Reads source k side)
      (more : d.Scans source (k + (d.sideText side).length) rest) :
      Scans d source offset (⟨side, k⟩ :: rest)

section Scans

variable {d : Delimiters} {source : Text} {offset : Nat} {met other : List Occurrence}

theorem Delimiters.Reads.startsAt {side : Side} (h : d.Reads source offset side) :
    d.StartsAt source offset := by
  cases h with
  | opening hstarts => exact Or.inl hstarts
  | closing hstarts => exact Or.inr hstarts

theorem Delimiters.Reads.unique {side side' : Side} (h : d.Reads source offset side)
    (h' : d.Reads source offset side') : side = side' := by
  cases h with
  | opening hstarts =>
    cases h' with
    | opening => rfl
    | closing _ hnone => exact absurd hstarts hnone
  | closing _ hnone =>
    cases h' with
    | opening hstarts => exact absurd hstarts hnone
    | closing => rfl

/-- **A scan comes upon one list of delimiters.** -/
theorem Delimiters.Scans.unique (h : d.Scans source offset met) (h' : d.Scans source offset other) :
    met = other := by
  induction h generalizing other with
  | done hnone =>
    cases h' with
    | done => rfl
    | next hle _ hreads => exact absurd hreads.startsAt (hnone _ hle)
  | @next offset k side rest hle hfirst hreads hmore ih =>
    cases h' with
    | done hnone => exact absurd hreads.startsAt (hnone _ hle)
    | @next _ k' side' rest' hle' hfirst' hreads' hmore' =>
      obtain rfl : k = k' := by
        rcases Nat.lt_trichotomy k k' with hlt | heq | hgt
        · exact absurd hreads.startsAt (hfirst' k hle hlt)
        · exact heq
        · exact absurd hreads'.startsAt (hfirst k' hle' hgt)
      obtain rfl := hreads.unique hreads'
      rw [ih hmore']

/-- A scan goes on over a place where no delimiter starts. -/
theorem Delimiters.Scans.of_succ (hnone : ¬ d.StartsAt source offset)
    (h : d.Scans source (offset + 1) met) : d.Scans source offset met := by
  have hhere {k : Nat} (hle : offset ≤ k) (hbehind : ¬ offset + 1 ≤ k) :
      ¬ d.StartsAt source k := by
    obtain rfl : offset = k := by omega
    exact hnone
  cases h with
  | done hrest =>
    refine .done fun k hle => ?_
    by_cases hbehind : offset + 1 ≤ k
    · exact hrest k hbehind
    · exact hhere hle hbehind
  | next hle hfirst hreads hmore =>
    refine .next (by omega) (fun j hj hlt => ?_) hreads hmore
    by_cases hbehind : offset + 1 ≤ j
    · exact hfirst j hbehind hlt
    · exact hhere hj hbehind

/-- The delimiters among pieces that start at an offset. -/
def occurrences (d : Delimiters) (offset : Nat) : List Piece → List Occurrence
  | [] => []
  | .plain _ :: rest => occurrences d (offset + 1) rest
  | .opening :: rest => ⟨.opening, offset⟩ :: occurrences d (offset + d.opening.length) rest
  | .closing :: rest => ⟨.closing, offset⟩ :: occurrences d (offset + d.closing.length) rest

/-- **The delimiters among the pieces of a text are those that a scan comes upon.** -/
theorem Delimiters.scans_pieces (before t : Text) :
    d.Scans (before ++ t) before.length (occurrences d before.length (d.pieces t)) := by
  fun_induction Delimiters.pieces d t generalizing before with
  | case1 =>
    refine .done fun k hle => ?_
    rw [List.append_nil, StartsAt, List.drop_eq_nil_of_le hle, List.prefix_nil, List.prefix_nil]
    exact not_or.mpr ⟨d.opening_ne_nil, d.closing_ne_nil⟩
  | case2 c rest h ih =>
    obtain ⟨behind, hbehind⟩ := List.isPrefixOf_iff_prefix.mp h
    rw [← hbehind, List.drop_left] at ih ⊢
    refine .next (Nat.le_refl _) (fun j hle hlt => by omega) (.opening ?_) ?_
    · rw [List.drop_left]
      exact List.prefix_append _ _
    · have hmore := ih (before ++ d.opening)
      rwa [List.length_append, List.append_assoc] at hmore
  | case3 c rest hno h ih =>
    rw [List.isPrefixOf_iff_prefix] at hno
    obtain ⟨behind, hbehind⟩ := List.isPrefixOf_iff_prefix.mp h
    rw [← hbehind] at hno
    rw [← hbehind, List.drop_left] at ih ⊢
    refine .next (Nat.le_refl _) (fun j hle hlt => by omega) (.closing ?_ ?_) ?_
    · rw [List.drop_left]
      exact List.prefix_append _ _
    · rwa [List.drop_left]
    · have hmore := ih (before ++ d.closing)
      rwa [List.length_append, List.append_assoc] at hmore
  | case4 c rest hno hnone ih =>
    rw [List.isPrefixOf_iff_prefix] at hno hnone
    have hmore := ih (before ++ [c])
    rw [List.length_append, List.append_assoc, List.singleton_append] at hmore
    refine .of_succ ?_ hmore
    rw [StartsAt, List.drop_left]
    exact not_or.mpr ⟨hno, hnone⟩

end Scans

/-! ## Delimiters in turn -/

/-- How many delimiters of a side there are. -/
def countOf (side : Side) (met : List Occurrence) : Nat := met.countP fun o => o.side = side

/-- Whether a mark is open behind some delimiters: more have been opened than closed. -/
def IsPending (met : List Occurrence) : Prop := countOf .closing met < countOf .opening met

/-- Whether a delimiter is out of turn behind others: an opening one while a mark is open, or a
closing one while none is. -/
def OutOfTurn (before : List Occurrence) (o : Occurrence) : Prop :=
  o.side = .opening ∧ IsPending before ∨ o.side = .closing ∧ ¬ IsPending before

/-- No delimiter is out of turn behind those before it. -/
def InTurn (met : List Occurrence) : Prop :=
  ∀ before o, before ++ [o] <+: met → ¬ OutOfTurn before o

/-- An opening and a closing delimiter, again and again. -/
def Alternates (met : List Occurrence) : Prop :=
  ∃ n, met.map Occurrence.side = (List.replicate n [Side.opening, Side.closing]).flatten

/-- What a reader complains about: the first delimiter that is out of turn or, if there is none, an
opening one that is the last. -/
inductive Offends (d : Delimiters) (met : List Occurrence) : Occurrence → Error → Prop
  | nested {before : List Occurrence} {k openedAt : Nat} (reached : before ++ [⟨.opening, k⟩] <+: met)
      (first : InTurn before) (outOfTurn : OutOfTurn before ⟨.opening, k⟩)
      (last : before.getLast? = some ⟨.opening, openedAt⟩) :
      Offends d met ⟨.opening, k⟩ (.nested d.opening k openedAt)
  | unmatchedClosing {before : List Occurrence} {k : Nat} (reached : before ++ [⟨.closing, k⟩] <+: met)
      (first : InTurn before) (outOfTurn : OutOfTurn before ⟨.closing, k⟩) :
      Offends d met ⟨.closing, k⟩ (.unmatchedClosing d.closing k)
  | unmatchedOpening {k : Nat} (last : met.getLast? = some ⟨.opening, k⟩) (inTurn : InTurn met) :
      Offends d met ⟨.opening, k⟩ (.unmatchedOpening d.opening k)

section Turns

variable {met before : List Occurrence} {o : Occurrence}

theorem countOf_concat (side : Side) (met : List Occurrence) (o : Occurrence) :
    countOf side (met ++ [o]) = countOf side met + if o.side = side then 1 else 0 := by
  simp [countOf, List.countP_append, List.countP_singleton]

theorem inTurn_nil : InTurn [] := by
  intro before o h
  simp at h

theorem inTurn_concat : InTurn (met ++ [o]) ↔ InTurn met ∧ ¬ OutOfTurn met o := by
  constructor
  · intro h
    exact ⟨fun before p hp => h before p (hp.trans (List.prefix_append _ _)),
      h met o (List.prefix_refl _)⟩
  · rintro ⟨hmet, ho⟩ before p hp
    rcases List.prefix_concat_iff.mp hp with heq | hp
    · obtain ⟨rfl, hlast⟩ := List.append_inj' heq rfl
      rw [List.singleton_inj] at hlast
      exact hlast ▸ ho
    · exact hmet before p hp

theorem Alternates.concat (h : Alternates met) (first second : Nat) :
    Alternates (met ++ [⟨.opening, first⟩] ++ [⟨.closing, second⟩]) := by
  obtain ⟨n, hn⟩ := h
  exact ⟨n + 1, by simp [hn, List.replicate_succ', List.flatten_append]⟩

theorem Alternates.countOf_eq (h : Alternates met) :
    countOf .opening met = countOf .closing met := by
  obtain ⟨n, hn⟩ := h
  have hcount (side : Side) : countOf side met = (met.map Occurrence.side).count side := by
    rw [countOf, List.count_eq_countP, List.countP_map]
    rfl
  rw [hcount, hcount, hn]
  simp [List.count_flatten]

theorem Alternates.not_isPending (h : Alternates met) : ¬ IsPending met := by
  rw [IsPending, h.countOf_eq]
  exact Nat.lt_irrefl _

theorem Alternates.isPending_concat (h : Alternates met) (k : Nat) :
    IsPending (met ++ [⟨.opening, k⟩]) := by
  simp [IsPending, countOf_concat, h.countOf_eq]

/-- Delimiters in turn alternate, but for one that is left open at the end. -/
theorem InTurn.alternates_or (h : InTurn met) :
    Alternates met ∨ ∃ before k, met = before ++ [⟨.opening, k⟩] ∧ Alternates before := by
  induction met using List.reverseRecOn with
  | nil => exact Or.inl ⟨0, rfl⟩
  | append_singleton met o ih =>
    obtain ⟨hmet, ho⟩ := inTurn_concat.mp h
    obtain ⟨side, offset⟩ := o
    rcases ih hmet with halternates | ⟨before, k, rfl, halternates⟩
    · cases side with
      | opening => exact Or.inr ⟨met, offset, rfl, halternates⟩
      | closing => exact absurd (Or.inr ⟨rfl, halternates.not_isPending⟩) ho
    · cases side with
      | opening => exact absurd (Or.inl ⟨rfl, halternates.isPending_concat k⟩) ho
      | closing => exact Or.inl (halternates.concat k offset)

/-- **Delimiters alternate exactly if they are in turn and none is left open.** -/
theorem alternates_iff : Alternates met ↔ InTurn met ∧ ¬ IsPending met := by
  constructor
  · intro h
    refine ⟨?_, h.not_isPending⟩
    obtain ⟨n, hn⟩ := h
    induction n generalizing met with
    | zero =>
      rw [List.map_eq_nil_iff.mp hn]
      exact inTurn_nil
    | succ n ih =>
      rw [List.replicate_succ', List.flatten_append, List.flatten_singleton] at hn
      obtain ⟨before, last, rfl, hbefore, hlast⟩ := List.map_eq_append_iff.mp hn
      match last, hlast with
      | [⟨_, first⟩, ⟨_, second⟩], rfl =>
        have halternates : Alternates before := ⟨n, hbefore⟩
        rw [List.append_cons, inTurn_concat, inTurn_concat]
        refine ⟨⟨ih hbefore, ?_⟩, ?_⟩
        · simpa [OutOfTurn] using halternates.not_isPending
        · simpa [OutOfTurn] using halternates.isPending_concat first
  · rintro ⟨hturn, hpending⟩
    rcases hturn.alternates_or with h | ⟨before, k, rfl, h⟩
    · exact h
    · exact absurd (h.isPending_concat k) hpending

/-- What a reader complains about does not alternate. -/
theorem Offends.not_alternates {d : Delimiters} {e : Error} (h : Offends d met o e) :
    ¬ Alternates met := by
  intro halternates
  obtain ⟨hturn, hpending⟩ := alternates_iff.mp halternates
  cases h with
  | nested hreached _ hout => exact hturn _ _ hreached hout
  | unmatchedClosing hreached _ hout => exact hturn _ _ hreached hout
  | @unmatchedOpening k hlast =>
    obtain ⟨before, rfl⟩ := List.getLast?_eq_some_iff.mp hlast
    obtain ⟨hbefore, hout⟩ := inTurn_concat.mp hturn
    have hclosed : ¬ IsPending before := fun hopen => hout (Or.inl ⟨rfl, hopen⟩)
    exact hpending ((alternates_iff.mpr ⟨hbefore, hclosed⟩).isPending_concat k)

theorem Offends.offset?_eq {d : Delimiters} {e : Error} (h : Offends d met o e) :
    e.offset? = some o.offset := by
  cases h <;> rfl

end Turns

/-! ## Pairing delimiters -/

/-- What has been met where a mark is open or none is. -/
def Awaits (met : List Occurrence) : Option Pending → Prop
  | none => Alternates met
  | some p => ∃ before, met = before ++ [⟨.opening, p.source⟩] ∧ Alternates before

section Resolve

variable {d : Delimiters} {source clean ordinal : Nat} {pending : Option Pending}
  {met : List Occurrence} {ps : List Piece}

theorem Awaits.inTurn (h : Awaits met pending) : InTurn met := by
  cases pending with
  | none => exact (alternates_iff.mp h).1
  | some p =>
    obtain ⟨before, rfl, hbefore⟩ := h
    refine inTurn_concat.mpr ⟨(alternates_iff.mp hbefore).1, ?_⟩
    simpa [OutOfTurn] using hbefore.not_isPending

/-- **Pairing goes well exactly as long as delimiters alternate**, and it complains about what offends
otherwise. The delimiters before the pieces are taken into account. -/
theorem resolve_follows (h : Awaits met pending) :
    (∀ m, resolve d source clean pending ordinal ps = .ok m →
      Alternates (met ++ occurrences d source ps)) ∧
    ∀ e, resolve d source clean pending ordinal ps = .error e →
      ∃ o, Offends d (met ++ occurrences d source ps) o e := by
  induction ps generalizing source clean pending ordinal met with
  | nil =>
    rw [occurrences, List.append_nil]
    cases pending with
    | none =>
      refine ⟨fun _ _ => h, fun e he => ?_⟩
      cases he
    | some p =>
      refine ⟨fun m hm => ?_, fun e he => ?_⟩
      · cases hm
      · cases he
        have hturn := h.inTurn
        obtain ⟨before, rfl, -⟩ := h
        exact ⟨_, .unmatchedOpening List.getLast?_concat hturn⟩
  | cons piece ps ih =>
    have hreached (side : Side) (rest : List Occurrence) :
        met ++ [⟨side, source⟩] <+: met ++ ⟨side, source⟩ :: rest :=
      (List.prefix_append_right_inj met).mpr (List.cons_prefix_cons.mpr ⟨rfl, List.nil_prefix⟩)
    cases piece with
    | plain c =>
      rw [resolve, occurrences]
      obtain ⟨hok, herror⟩ := @ih (source + 1) (clean + 1) ordinal pending met h
      cases hrest : resolve d (source + 1) (clean + 1) pending ordinal ps with
      | ok m =>
        refine ⟨fun _ _ => hok m hrest, fun e he => ?_⟩
        cases he
      | error e =>
        refine ⟨fun m hm => ?_, fun e' he => herror e' (hrest.trans he)⟩
        cases hm
    | opening =>
      rw [occurrences]
      cases pending with
      | none =>
        rw [resolve, List.append_cons]
        exact ih ⟨met, rfl, h⟩
      | some p =>
        refine ⟨fun m hm => ?_, fun e he => ?_⟩
        · cases hm
        · cases he
          have hturn := h.inTurn
          obtain ⟨before, hmet, hbefore⟩ := h
          have hpending : IsPending met := hmet ▸ hbefore.isPending_concat _
          have hlast : met.getLast? = some ⟨.opening, p.source⟩ := hmet ▸ List.getLast?_concat
          exact ⟨_, .nested (hreached _ _) hturn (Or.inl ⟨rfl, hpending⟩) hlast⟩
    | closing =>
      rw [occurrences]
      cases pending with
      | none =>
        refine ⟨fun m hm => ?_, fun e he => ?_⟩
        · cases hm
        · cases he
          exact ⟨_, .unmatchedClosing (hreached _ _) h.inTurn (Or.inr ⟨rfl, h.not_isPending⟩)⟩
      | some p =>
        obtain ⟨before, rfl, hbefore⟩ := h
        rw [resolve, List.append_cons]
        obtain ⟨hok, herror⟩ := @ih (source + d.closing.length) clean (ordinal + 1) none _
          (hbefore.concat p.source source)
        cases hrest : resolve d (source + d.closing.length) clean none (ordinal + 1) ps with
        | ok m =>
          refine ⟨fun _ _ => hok m hrest, fun e he => ?_⟩
          cases he
        | error e =>
          refine ⟨fun m hm => ?_, fun e' he => herror e' (hrest.trans he)⟩
          cases hm

end Resolve

/-- **A marked text can be read exactly if its delimiters come in turn.** A scan from left to right
comes upon one list of delimiters. If an opening and a closing one alternate in it, the text can be
read. If not, the complaint is about the first one that is out of turn, and if there is none, about
the opening one at the end that is never closed; it names the offset of that delimiter in the
source. -/
theorem parse_follows_turns (d : Delimiters) (source : Text) :
    let read := parse (String.ofList d.opening) (String.ofList d.closing) source
    ∃ met, d.Scans source 0 met ∧ (∀ other, d.Scans source 0 other → other = met) ∧
      ((∃ m, read = .ok m) ↔ Alternates met) ∧
      (¬ Alternates met → ∃ o e, Offends d met o e ∧ read = .error e ∧ e.offset? = some o.offset) := by
  intro read
  have hread : read = resolve d 0 0 none 0 (d.pieces source) := parse_ofList d source
  have hscans : d.Scans source 0 (occurrences d 0 (d.pieces source)) :=
    Delimiters.scans_pieces [] source
  obtain ⟨hok, herror⟩ := @resolve_follows d 0 0 0 none [] (d.pieces source) ⟨0, rfl⟩
  rw [← hread, List.nil_append] at hok herror
  refine ⟨_, hscans, fun other hother => hother.unique hscans, ⟨fun ⟨m, hm⟩ => hok m hm, ?_⟩, ?_⟩
  · intro halternates
    cases hresult : read with
    | ok m => exact ⟨m, rfl⟩
    | error e =>
      obtain ⟨o, ho⟩ := herror e hresult
      exact absurd halternates ho.not_alternates
  · intro hnot
    cases hresult : read with
    | ok m => exact absurd (hok m hresult) hnot
    | error e =>
      obtain ⟨o, ho⟩ := herror e hresult
      exact ⟨o, e, ho, rfl, ho.offset?_eq⟩

/-- An opening delimiter that is out of turn goes before one that is never closed. -/
example : parse "[|" "|]" "a[|b[|c".toList = .error (.nested ['[', '|'] 4 1) := by cbv

end Assay.Markup
