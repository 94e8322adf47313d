import Assay.Fault
import Mathlib.Data.List.Basic

/-!
# Delimiters of settings

Delimiters come from settings, as texts of code points, and a source is a text of characters. A
delimiter with a lone surrogate occurs in no source, so a text that is longer than the source stands
in for that one (`Delimiters.ofCodes`). Nothing is lost by this: in what is left of the source at any
place, the delimiters that are read with start exactly where the texts of the settings do
(`Delimiters.exists_ofCodes`). Delimiters that are strings are read with as they are
(`parseCodes_ofString`).

What is wrong with a marked text is the bench's own to complain about, unless the delimiters cannot be
told from nothing or from each other.
-/

namespace Assay

namespace Markup

/-! ## Stand-ins -/

/-- A delimiter starts in the rest of a source exactly where a text of code points does. -/
def StandsFor (d : Text) (marker : CodeText) (source : Text) : Prop :=
  ∀ rest, rest <:+ source → (d <+: rest ↔ marker <+: CodeText.ofText rest)

theorem standsFor_ofText (d source : Text) : StandsFor d (.ofText d) source := by
  intro rest _
  rw [CodeText.ofText, CodeText.ofText,
    List.prefix_map_iff_of_injective fun _ _ h => CodePoint.char.inj h]

theorem readAs_ofText (source : Text) (extra : Nat) (d : Text) :
    readAs source extra (.ofText d) = d := by
  rw [readAs, CodeText.text?_ofText]
  rfl

/-- The stand-in for a text with a lone surrogate is too long to occur in the source. -/
theorem length_readAs_of_none {marker : CodeText} (h : marker.text? = none) (source : Text)
    (extra : Nat) : (readAs source extra marker).length = source.length + extra + 1 := by
  rw [readAs, h]
  exact List.length_replicate

theorem standsFor_readAs (source : Text) (extra : Nat) (marker : CodeText) :
    StandsFor (readAs source extra marker) marker source := by
  cases hd : marker.text? with
  | some d =>
    obtain rfl := CodeText.text?_eq_some_iff.mp hd
    rw [readAs_ofText]
    exact standsFor_ofText d source
  | none =>
    intro rest hrest
    refine iff_of_false (fun hprefix => ?_) ?_
    · have hlong := hprefix.length_le
      have hshort := hrest.length_le
      rw [length_readAs_of_none hd] at hlong
      omega
    · rintro ⟨more, hmore⟩
      obtain ⟨front, -, -, hfront, -⟩ := List.map_eq_append_iff.mp hmore.symm
      rw [CodeText.text?_eq_some_iff.mpr hfront.symm] at hd
      cases hd

theorem readAs_eq_nil_iff {source : Text} {extra : Nat} {marker : CodeText} :
    readAs source extra marker = [] ↔ marker = [] := by
  cases hd : marker.text? with
  | some d =>
    obtain rfl := CodeText.text?_eq_some_iff.mp hd
    rw [readAs_ofText, CodeText.ofText, List.map_eq_nil_iff]
  | none =>
    refine iff_of_false (fun hnil => ?_) ?_
    · have h := length_readAs_of_none hd source extra
      rw [hnil] at h
      cases h
    · rintro rfl
      cases hd

/-- Delimiters that differ are read as such: a stand-in is longer than the other delimiter, and of two
stand-ins the second one is longer. -/
theorem readAs_ne {source : Text} {opening closing : CodeText} (h : opening ≠ closing) :
    readAs source (opening.length + closing.length) opening
      ≠ readAs source (opening.length + closing.length + 1) closing := by
  intro heq
  have hlength := congrArg List.length heq
  cases ho : opening.text? with
  | some o =>
    obtain rfl := CodeText.text?_eq_some_iff.mp ho
    cases hc : closing.text? with
    | some c =>
      obtain rfl := CodeText.text?_eq_some_iff.mp hc
      rw [readAs_ofText, readAs_ofText] at heq
      exact h (congrArg _ heq)
    | none =>
      rw [readAs_ofText, length_readAs_of_none hc, CodeText.ofText, List.length_map] at hlength
      omega
  | none =>
    cases hc : closing.text? with
    | some c =>
      obtain rfl := CodeText.text?_eq_some_iff.mp hc
      rw [readAs_ofText, length_readAs_of_none ho, CodeText.ofText, List.length_map] at hlength
      omega
    | none =>
      rw [length_readAs_of_none ho, length_readAs_of_none hc] at hlength
      omega

/-! ## Pairs of delimiters -/

section Pairs

variable {opening closing : CodeText}

/-- **Two texts that can be told from nothing and from each other are a pair of delimiters**, and they
are looked for where they are. -/
theorem Delimiters.exists_ofCodes (hopening : opening ≠ []) (hclosing : closing ≠ [])
    (hdistinct : opening ≠ closing) (source : Text) :
    ∃ d : Delimiters, ofCodes source opening closing = .ok d ∧
      StandsFor d.opening opening source ∧ StandsFor d.closing closing source := by
  have hempty : ¬ (readAs source (opening.length + closing.length) opening = [] ∨
      readAs source (opening.length + closing.length + 1) closing = []) := by
    rw [readAs_eq_nil_iff, readAs_eq_nil_iff, not_or]
    exact ⟨hopening, hclosing⟩
  refine ⟨⟨_, _, fun h => hempty (.inl h), fun h => hempty (.inr h), readAs_ne hdistinct⟩, ?_,
    standsFor_readAs source _ opening, standsFor_readAs source _ closing⟩
  rw [ofCodes, if_neg fun h => hdistinct h.1, ofTexts, dif_neg hempty, dif_neg (readAs_ne hdistinct)]

theorem Delimiters.ofCodes_of_eq_nil (h : opening = [] ∨ closing = []) (source : Text) :
    ofCodes source opening closing = .error .emptyDelimiter := by
  have hsame : ¬ (opening = closing ∧ opening ≠ []) := by
    rintro ⟨rfl, hne⟩
    exact hne (h.elim id id)
  rw [ofCodes, if_neg hsame, ofTexts, dif_pos]
  rwa [readAs_eq_nil_iff, readAs_eq_nil_iff]

theorem Delimiters.ofCodes_self (h : opening ≠ []) (source : Text) :
    ofCodes source opening opening = .error .equalDelimiters := by
  rw [ofCodes, if_pos ⟨rfl, h⟩]

end Pairs

/-- Delimiters that are strings are read with as they are. -/
theorem parseCodes_ofString (opening closing : String) (source : Text) :
    parseCodes (.ofString opening) (.ofString closing) source = parse opening closing source := by
  suffices h : Delimiters.ofCodes source (.ofString opening) (.ofString closing)
      = Delimiters.ofTexts opening.toList closing.toList by
    rw [parseCodes, parse, h]
  by_cases hsame : CodeText.ofString opening = .ofString closing ∧ CodeText.ofString opening ≠ []
  · obtain ⟨heq, hne⟩ := hsame
    obtain rfl := CodeText.ofString_inj.mp heq
    have hlist : opening.toList ≠ [] := fun h => hne (congrArg CodeText.ofText h)
    rw [Delimiters.ofCodes_self hne, Delimiters.ofTexts, dif_neg (by rwa [or_self]), dif_pos rfl]
  · rw [Delimiters.ofCodes, if_neg hsame]
    simp only [CodeText.ofString, readAs_ofText]

/-! ## Errors -/

/-- Pieces can only be wrong in ways that are the bench's own to complain about. -/
theorem isOwn_of_resolve {d : Delimiters} {e : Error} {pieces : List Piece} :
    ∀ {source clean ordinal : Nat} {pending : Option Pending},
      resolve d source clean pending ordinal pieces = .error e → (Fault.markup e).isOwn = true := by
  induction pieces with
  | nil =>
    intro source clean ordinal pending h
    cases pending with
    | none => cases h
    | some p => cases h; rfl
  | cons piece rest ih =>
    intro source clean ordinal pending h
    -- what is put in front of the rest leaves an error of the rest as it is
    have hmapped {put : MarkedText → MarkedText} {result : Except Error MarkedText}
        (hm : result.map put = .error e) : result = .error e := by
      cases result with
      | error e' => exact hm
      | ok m => cases hm
    cases piece with
    | plain c => exact ih (hmapped h)
    | opening =>
      cases pending with
      | none => exact ih h
      | some p => cases h; rfl
    | closing =>
      cases pending with
      | none => cases h; rfl
      | some p => exact ih (hmapped h)

theorem isOwn_of_parseCodes {opening closing : CodeText} {marked : Text} {e : Error}
    (hopening : opening ≠ []) (hclosing : closing ≠ []) (hdistinct : opening ≠ closing)
    (h : parseCodes opening closing marked = .error e) : (Fault.markup e).isOwn = true := by
  obtain ⟨d, hd, -⟩ := Delimiters.exists_ofCodes hopening hclosing hdistinct marked
  rw [parseCodes, hd] at h
  exact isOwn_of_resolve h

end Markup

end Assay
