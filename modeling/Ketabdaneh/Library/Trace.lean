import Mathlib.Data.List.Basic

/-!
This module contains what is said of a trace event by event, each against those before it.
-/

namespace Trace

variable {Event : Type*} {P : List Event → Event → Prop} {trace : List Event} {event : Event}

/-- Each event of the trace stands in relation to the events before it. -/
def Each (P : List Event → Event → Prop) (trace : List Event) : Prop :=
  ∀ before event after, trace = before ++ event :: after → P before event

theorem each_nil : Each P [] := by
  intro before event after h
  simp at h

theorem each_concat : Each P (trace ++ [event]) ↔ Each P trace ∧ P trace event := by
  constructor
  . intro h
    constructor
    . intro before event' after hsplit
      apply h before event' (after ++ [event])
      rw [hsplit, List.append_assoc]
      rfl
    . exact h trace event [] rfl
  . intro h before event' after hsplit
    cases List.eq_nil_or_concat after with
    | inl hnil =>
      rw [hnil] at hsplit
      obtain ⟨hbefore, hevent⟩ := List.append_inj' hsplit rfl
      rw [← hbefore, ← List.singleton_inj.mp hevent]
      exact h.2
    | inr hconcat =>
      obtain ⟨after', last, hafter⟩ := hconcat
      rw [hafter, List.concat_eq_append, ← List.cons_append, ← List.append_assoc] at hsplit
      exact h.1 before event' after' (List.append_inj' hsplit rfl).1

end Trace
