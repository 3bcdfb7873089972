import Mathlib.Tactic.Common

/-!
This module contains the passive effects of a React component: a commit whose dependencies changed
schedules the effect, which runs later but before the next render.
-/

namespace React

structure Effect (Deps : Type) where
  /-- The dependencies of the last commit; before the first there are none. -/
  deps : Option Deps := none
  scheduled : Bool := false

namespace Effect

variable {Deps : Type} [DecidableEq Deps]

def commit (effect : Effect Deps) (deps : Deps) : Effect Deps :=
  if effect.deps = some deps then effect else { deps := some deps, scheduled := true }

/-- What the effect is to be run with. -/
def due (effect : Effect Deps) : Option Deps :=
  if effect.scheduled then effect.deps else none

def ran (effect : Effect Deps) : Effect Deps :=
  { effect with scheduled := false }

@[simp]
theorem deps_commit (effect : Effect Deps) (deps : Deps) : (effect.commit deps).deps = some deps := by
  unfold commit
  split
  . assumption
  . rfl

omit [DecidableEq Deps] in
@[simp]
theorem deps_ran (effect : Effect Deps) : effect.ran.deps = effect.deps := rfl

omit [DecidableEq Deps] in
@[simp]
theorem due_ran (effect : Effect Deps) : effect.ran.due = none := rfl

omit [DecidableEq Deps] in
theorem due_eq_some {effect : Effect Deps} {deps : Deps} (h : effect.due = some deps)
    : effect.deps = some deps := by
  unfold due at h
  split at h
  . assumption
  . contradiction

theorem due_commit_of_ne {effect : Effect Deps} {deps : Deps} (h : effect.deps ≠ some deps)
    : (effect.commit deps).due = some deps := by
  unfold commit
  rw [if_neg h]
  rfl

end Effect

end React
