import Assay.Proofs.Versions.Order
import Mathlib.Data.List.TakeWhile

/-!
# Versions of installed components

What an installed component says of its version may have anything appended. What is detected are its
leading components of digits alone, up to four (`IsPlain`). A version that is written elsewhere is
read with less care: a component may have a sign, underscores between digits, and blanks around them
(`IsReadable`). So the leading components that are detected begin those that could be read, and they
are all of them exactly if no other spelling is among those.

Not every digit writes a number, and not every row of digits is short enough to be read. Of a
version with such a component in front nothing is said here.
-/

namespace Assay

/-! ## Digits and blanks -/

theorem not_inRanges_of_apart {a b : RangeTable}
    (h : ∀ r ∈ a, ∀ s ∈ b, r.2 < s.1 ∨ s.2 < r.1) {n : Nat} (hn : inRanges a n = true) :
    inRanges b n = false := by
  obtain ⟨r, hr, hrn⟩ := List.any_eq_true.mp hn
  refine List.any_eq_false.mpr fun s hs hsn => ?_
  simp only [Bool.and_eq_true, decide_eq_true_eq] at hrn hsn
  rcases h r hr s hs with hlt | hlt
  · omega
  · omega

/-- A digit of any kind is no blank. -/
theorem isBlank_of_digit {c : Char} (h : isDigit c = true) : isBlank c = false := by
  rw [isDigit, Bool.or_eq_true, Bool.or_eq_true] at h
  rcases h with (h | h) | h
  · exact isBlank_of_isDigit h
  · exact not_inRanges_of_apart (by decide +kernel) h
  · exact not_inRanges_of_apart (by decide +kernel) h

namespace Version

/-- A component of digits alone. -/
def IsPlain (component : Text) : Prop := component ≠ [] ∧ ∀ c ∈ component, isDigit c = true

/-- A component that is read as a number. -/
def IsReadable (component : Text) : Prop := (component? component).isSome = true

/-- The longest start of some components, up to four of them, that has a property throughout. -/
structure IsLeading (p : Text → Prop) (components front : List Text) : Prop where
  isPrefix : front <+: components
  length_le : front.length ≤ 4
  holds : ∀ c ∈ front, p c
  longest : ∀ other, other <+: components → other.length ≤ 4 → (∀ c ∈ other, p c) →
    other.length ≤ front.length

variable {p q : Text → Prop} {components front other : List Text}

namespace IsLeading

/-- A start with a stronger property begins the one with the weaker property. -/
theorem isPrefix_of_imp (hp : IsLeading p components front) (hq : IsLeading q components other)
    (h : ∀ c ∈ front, q c) : front <+: other :=
  List.prefix_of_prefix_length_le hp.isPrefix hq.isPrefix
    (hq.longest front hp.isPrefix hp.length_le h)

theorem unique (h : IsLeading p components front) (h' : IsLeading p components other) :
    front = other :=
  (h.isPrefix_of_imp h' h.holds).eq_of_length_le (h.longest other h'.isPrefix h'.length_le h'.holds)

/-- With a test for the property, the start is found from the front. -/
theorem takeWhile (test : Text → Bool) (components : List Text) :
    IsLeading (fun c => test c = true) components ((components.take 4).takeWhile test) where
  isPrefix := (List.takeWhile_prefix test).trans (List.take_prefix 4 components)
  length_le := (List.takeWhile_prefix test).length_le.trans (List.length_take_le 4 components)
  holds := fun _ hc => List.mem_takeWhile_imp hc
  longest := by
    intro other hbegins hlength hall
    have htake : other <+: components.take 4 := List.prefix_take_iff.mpr ⟨hbegins, hlength⟩
    obtain ⟨rest, hrest⟩ := htake
    rw [← hrest, List.takeWhile_append_of_pos hall, List.length_append]
    exact Nat.le_add_right _ _

end IsLeading

/-! ## What is cut off -/

theorem isLeading_releaseComponents (t : Text) :
    IsLeading IsPlain (Text.splitAt '.' t) (releaseComponents t) := by
  have h := IsLeading.takeWhile (fun component => !component.isEmpty && component.all isDigit)
    (Text.splitAt '.' t)
  have heq : (fun component : Text => (!component.isEmpty && component.all isDigit) = true) =
      IsPlain := by
    funext component
    simp [IsPlain]
  rwa [heq] at h

/-- What is kept of an installed version is cut at its points into the same components. -/
theorem splitAt_strip_join (hne : front ≠ []) (h : ∀ c ∈ front, IsPlain c) :
    Text.splitAt '.' (Text.strip (Text.join ['.'] front)) = front := by
  have hstrip : Text.strip (Text.join ['.'] front) = Text.join ['.'] front := by
    refine Text.trim_eq_self fun c hc => ?_
    rcases Text.mem_join hc with rfl | ⟨piece, hpiece, hc⟩
    · rfl
    · exact isBlank_of_digit ((h piece hpiece).2 c hc)
  rw [hstrip, Text.splitAt_join hne]
  intro piece hpiece hpoint
  have hdigit := (h piece hpiece).2 '.' hpoint
  exact absurd hdigit (by decide)

/-- Fewer than two components are no version. -/
theorem ofText?_join_of_short (hshort : front.length < 2) (h : ∀ c ∈ front, IsPlain c) :
    ofText? (Text.join ['.'] front) = none := by
  by_cases hne : front = []
  · subst hne
    rw [ofText?, if_pos (Or.inl (by decide))]
  · rw [ofText?, splitAt_strip_join hne h, if_pos (Or.inl hshort)]

theorem exists_numbers (h : ∀ c ∈ front, IsReadable c) :
    ∃ numbers, front.mapM component? = some numbers ∧ front.map component? = numbers.map some := by
  induction front with
  | nil => exact ⟨[], rfl, rfl⟩
  | cons c front ih =>
    obtain ⟨hc, hfront⟩ := List.forall_mem_cons.mp h
    obtain ⟨n, hn⟩ := Option.isSome_iff_exists.mp hc
    obtain ⟨numbers, hread, hmap⟩ := ih hfront
    refine ⟨n :: numbers, ?_, ?_⟩
    · rw [List.mapM_cons, hn, hread]
      rfl
    · rw [List.map_cons, hn, hmap, List.map_cons]

/-- Two to four components that can be read are the version of their numbers. -/
theorem ofText?_join_of_readable (hleast : 2 ≤ front.length) (hmost : front.length ≤ 4)
    (h : ∀ c ∈ front, IsPlain c) (hread : ∀ c ∈ front, IsReadable c) :
    ∃ v, ofText? (Text.join ['.'] front) = some v ∧ front.map component? = v.numbers.map some := by
  obtain ⟨numbers, hnumbers, hmap⟩ := exists_numbers hread
  have hlength : numbers.length = front.length := by
    simpa using (congrArg List.length hmap).symm
  have hne : front ≠ [] := List.ne_nil_of_length_pos (by omega)
  refine ⟨⟨numbers, by omega, by omega⟩, ?_, hmap⟩
  rw [ofText?, splitAt_strip_join hne h, if_neg (by omega), hnumbers, Option.bind_some, ofNumbers?,
    dif_pos (by omega)]

/-! ## What is detected -/

/-- **What is detected of an installed version is its leading components of digits alone**, up to
four, if they can be read; fewer than two of them are no version. They begin the components that
could be read, and are all of these exactly if all of these are digits alone. -/
theorem detected_of_leading (s component : String) {plain readable : List Text}
    (hplain : IsLeading IsPlain (Text.splitAt '.' s.toList) plain)
    (hreadable : IsLeading IsReadable (Text.splitAt '.' s.toList) readable) :
    let g := VersionGate.ofInstalled (some s) component
    (plain.length < 2 → g.detected = none) ∧
      ((∀ c ∈ plain, IsReadable c) →
        (2 ≤ plain.length →
          ∃ v, g.detected = some v ∧ plain.map component? = v.numbers.map some) ∧
        plain <+: readable ∧ (plain = readable ↔ ∀ c ∈ readable, IsPlain c)) := by
  intro g
  have hdetected : g.detected = ofText? (Text.join ['.'] plain) := by
    simp only [g, VersionGate.ofInstalled, Option.bind_some, ofInstalled?]
    rw [hplain.unique (isLeading_releaseComponents s.toList)]
  rw [hdetected]
  refine ⟨fun hshort => ofText?_join_of_short hshort hplain.holds, fun hread => ⟨?_, ?_⟩⟩
  · intro hleast
    exact ofText?_join_of_readable hleast hplain.length_le hplain.holds hread
  · have hbegins := hplain.isPrefix_of_imp hreadable hread
    refine ⟨hbegins, ?_, fun h => ?_⟩
    · rintro rfl
      exact hplain.holds
    · exact hbegins.eq_of_length_le
        (hplain.longest readable hreadable.isPrefix hreadable.length_le h)

/-- The digits may be of any script, and what is detected ends in front of a sign. -/
theorem detected_of_leading_signed :
    IsLeading IsPlain (Text.splitAt '.' "2.٠1.+3.4".toList) [['2'], ['٠', '1']] ∧
      IsLeading IsReadable (Text.splitAt '.' "2.٠1.+3.4".toList)
        [['2'], ['٠', '1'], ['+', '3'], ['4']] ∧
      ∃ v, (VersionGate.ofInstalled (some "2.٠1.+3.4") "engine").detected = some v ∧
        v.numbers = [2, 1] := by
  have hplain : IsLeading IsPlain (Text.splitAt '.' "2.٠1.+3.4".toList) [['2'], ['٠', '1']] :=
    isLeading_releaseComponents "2.٠1.+3.4".toList
  have hreadable : IsLeading IsReadable (Text.splitAt '.' "2.٠1.+3.4".toList)
      [['2'], ['٠', '1'], ['+', '3'], ['4']] :=
    .takeWhile (fun c => (component? c).isSome) (Text.splitAt '.' "2.٠1.+3.4".toList)
  have hread : ∀ c ∈ [['2'], ['٠', '1']], IsReadable c := fun c hc =>
    hreadable.holds c (List.mem_append_left [['+', '3'], ['4']] hc)
  obtain ⟨v, hv, hnumbers⟩ :=
    ((detected_of_leading "2.٠1.+3.4" "engine" hplain hreadable).2 hread).1 (Nat.le_refl 2)
  have hread' : [['2'], ['٠', '1']].map component? = [2, 1].map some := by decide +kernel
  have hmap : v.numbers.map some = [2, 1].map some := hnumbers.symm.trans hread'
  exact ⟨hplain, hreadable, v, hv, (List.map_inj_right fun _ _ => Option.some.inj).mp hmap⟩

/-- Both components of `1.+2` could be read, but no version is detected. -/
theorem undetected_sign :
    IsLeading IsReadable (Text.splitAt '.' "1.+2".toList) [['1'], ['+', '2']] ∧
      ofText? "1.+2".toList = some ⟨[1, 2], by decide, by decide⟩ ∧
      (VersionGate.ofInstalled (some "1.+2") "engine").detected = none := by
  refine ⟨?_, by decide +kernel, by decide +kernel⟩
  exact .takeWhile (fun c => (component? c).isSome) (Text.splitAt '.' "1.+2".toList)

end Version

end Assay
