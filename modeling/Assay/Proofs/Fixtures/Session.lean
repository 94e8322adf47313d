import Assay.Fixture
import Assay.Proofs.Runs.Calls

/-!
# Steps of assertions

An assertion is a chain of steps that take ids from one counter. What it comes to is read off one
step after the other: it goes on behind a step that comes to a value, and stops at the first one
that does not.
-/

namespace Assay

namespace Session

variable {α β : Type}

theorem fst_bind (s : Session α) (next : α → Session β) (id : Nat) :
    ((s >>= next) id).1 = (s id).1 >>= fun a => (next a (s id).2).1 := by
  change (Session.bind s next id).1 = _
  rcases hs : s id with ⟨a | f | _, id'⟩
  · rw [Session.bind, hs]
    rfl
  · rw [Session.bind, hs]
    rfl
  · rw [Session.bind, hs]
    rfl

theorem fst_bind_of_done {s : Session α} {a : α} {id : Nat} (h : (s id).1 = .done a)
    (next : α → Session β) : ((s >>= next) id).1 = (next a (s id).2).1 := by
  rw [fst_bind, h, Outcome.done_bind]

/-- A chain that comes to a value has come to one in its first step. -/
theorem exists_of_fst_bind {s : Session α} {next : α → Session β} {b : β} {id : Nat}
    (h : ((s >>= next) id).1 = .done b) :
    ∃ a, (s id).1 = .done a ∧ (next a (s id).2).1 = .done b := by
  rw [fst_bind] at h
  cases hs : (s id).1 with
  | done a =>
    rw [hs] at h
    exact ⟨a, rfl, h⟩
  | raised f =>
    rw [hs] at h
    cases h
  | stalled =>
    rw [hs] at h
    cases h

theorem fst_bind_of_raised {s : Session α} {f : Fault} {id : Nat} (h : (s id).1 = .raised f)
    (next : α → Session β) : ((s >>= next) id).1 = .raised f := by
  rw [fst_bind, h, Outcome.raised_bind]

end Session

namespace Bench

variable {b : Bench} {marked : Text}

theorem fst_parse_of_ok {m : Markup.MarkedText}
    (h : Markup.parseCodes b.config.openMarker b.config.closeMarker marked = .ok m) (id : Nat) :
    (b.parse marked id).1 = .done m := by
  rw [parse, h]
  rfl

end Bench

end Assay
