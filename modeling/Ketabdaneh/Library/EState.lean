import Mathlib.Tactic.Common

/-!
This module contains what is known of the parts of a stateful computation that can fail, from its
outcome.
-/

namespace EStateM

universe u

variable {ε σ α β : Type u}

theorem bind_eq_ok {x : EStateM ε σ α} {f : α → EStateM ε σ β} {s t : σ} {b : β}
    : (x >>= f) s = .ok b t ↔ ∃ a u, x s = .ok a u ∧ f a u = .ok b t := by
  simp only [bind, EStateM.bind]
  cases x s with
  | ok a u => simp
  | error e u => simp

theorem bind_eq_error {x : EStateM ε σ α} {f : α → EStateM ε σ β} {s t : σ} {e : ε}
    : (x >>= f) s = .error e t
        ↔
      x s = .error e t ∨ ∃ a u, x s = .ok a u ∧ f a u = .error e t := by
  simp only [bind, EStateM.bind]
  cases x s with
  | ok a u => simp
  | error e' u => simp

theorem pure_eq_ok {s t : σ} {a b : α}
    : (pure a : EStateM ε σ α) s = .ok b t ↔ a = b ∧ s = t := by
  simp [pure, EStateM.pure]

theorem pure_ne_error {s t : σ} {a : α} {e : ε} : (pure a : EStateM ε σ α) s ≠ .error e t := by
  simp [pure, EStateM.pure]

theorem get_bind (f : σ → EStateM ε σ α) (s : σ) : (get >>= f) s = f s s := rfl

theorem throw_ne_ok {s t : σ} {a : α} {e : ε} : (throw e : EStateM ε σ α) s ≠ .ok a t := by
  intro h
  cases show Result.error e s = .ok a t from h

end EStateM
