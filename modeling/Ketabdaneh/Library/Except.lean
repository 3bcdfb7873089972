import Mathlib.Tactic.Common

/-!
This module contains what is known of the parts of a computation that can fail, from its outcome.
-/

namespace Except

universe u

variable {ε ε' : Type*} {α β : Type u}

theorem bind_eq_ok {x : Except ε α} {f : α → Except ε β} {b : β}
    : (x >>= f) = .ok b ↔ ∃ a, x = .ok a ∧ f a = .ok b := by
  cases x with
  | error e => simp [bind, Except.bind]
  | ok a => simp [bind, Except.bind]

theorem pure_eq_ok {a b : α} : (pure a : Except ε α) = .ok b ↔ a = b := by
  simp [pure, Except.pure]

theorem map_eq_ok {x : Except ε α} {f : α → β} {b : β}
    : x.map f = .ok b ↔ ∃ a, x = .ok a ∧ f a = b := by
  cases x with
  | error e => simp [Except.map]
  | ok a => simp [Except.map]

theorem map_eq_error {x : Except ε α} {f : α → β} {e : ε}
    : x.map f = .error e ↔ x = .error e := by
  cases x with
  | error e' => simp [Except.map]
  | ok a => simp [Except.map]

theorem mapError_eq_error {x : Except ε α} {f : ε → ε'} {e : ε'}
    : x.mapError f = .error e ↔ ∃ e', x = .error e' ∧ f e' = e := by
  cases x with
  | error e' => simp [Except.mapError]
  | ok a => simp [Except.mapError]

theorem elim_eq_ok {x : Option α} {e : ε} {a : α}
    : x.elim (.error e) .ok = (.ok a : Except ε α) ↔ x = some a := by
  cases x with
  | none => simp
  | some b => simp

theorem elim_eq_error {x : Option α} {e e' : ε}
    : x.elim (.error e) .ok = (.error e' : Except ε α) ↔ x = none ∧ e = e' := by
  cases x with
  | none => simp
  | some b => simp

theorem bind_eq_error {x : Except ε α} {f : α → Except ε β} {e : ε}
    : (x >>= f) = .error e ↔ x = .error e ∨ ∃ a, x = .ok a ∧ f a = .error e := by
  cases x with
  | error e' => simp [bind, Except.bind]
  | ok a => simp [bind, Except.bind]

theorem isOk_eq_false {x : Except ε α}
    : x.isOk = false ↔ ∃ e, x = .error e := by
  cases x with
  | error e => simp [Except.isOk, Except.toBool]
  | ok a => simp [Except.isOk, Except.toBool]

theorem isOk_iff {x : Except ε α}
    : x.isOk ↔ ∃ a, x = .ok a := by
  cases x with
  | error e => simp [Except.isOk, Except.toBool]
  | ok a => simp [Except.isOk, Except.toBool]

/-- Applies the one to the other, with the errors of both. -/
def collect (f : Except (List ε) (α → β)) (x : Except (List ε) α) : Except (List ε) β :=
  match f, x with
  | .ok f, .ok a => .ok (f a)
  | .error es, .ok _ => .error es
  | .ok _, .error es => .error es
  | .error es, .error es' => .error (es ++ es')

theorem forall_collect_eq_ok {f : Except (List ε) (α → β)} {x : Except (List ε) α} {P : β → Prop}
    : (∀ b, collect f x = .ok b → P b) ↔ ∀ g, f = .ok g → ∀ a, x = .ok a → P (g a) := by
  cases f with
  | error es => cases x <;> simp [collect]
  | ok g => cases x <;> simp [collect]

/-- The error of a computation that fails. -/
def error? (x : Except ε α) : Option ε :=
  match x with
  | .ok _ => none
  | .error e => some e

theorem error?_eq_some {x : Except ε α} {e : ε}
    : x.error? = some e ↔ x = .error e := by
  cases x with
  | error e => simp [error?]
  | ok a => simp [error?]

theorem error?_collect_congr {f f' : Except (List ε) (α → β)} {x x' : Except (List ε) α}
    (hf : f.error? = f'.error?) (hx : x.error? = x'.error?)
    : (collect f x).error? = (collect f' x').error? := by
  cases f <;> cases f' <;> cases x <;> cases x' <;> simp_all [collect, error?]

end Except

theorem List.mapM_eq_some_iff {α β : Type*} {f : α → Option β} {as : List α} {bs : List β}
    : as.mapM f = some bs ↔ as.map f = bs.map some := by
  induction as generalizing bs with
  | nil =>
    rw [List.mapM_nil, List.map_nil, eq_comm (a := []), List.map_eq_nil_iff]
    simp [eq_comm]
  | cons a as ih =>
    rw [List.mapM_cons, List.map_cons]
    cases bs with
    | nil =>
      cases f a with
      | none => simp
      | some b => cases as.mapM f <;> simp
    | cons c bs =>
      rw [List.map_cons, List.cons.injEq, ← ih]
      cases f a with
      | none => simp
      | some b => cases as.mapM f <;> simp

theorem List.exists_mapM_eq_some {α β : Type*} {f : α → Option β} {Q : α → β → Prop} {as : List α}
    (h : ∀ a ∈ as, ∃ b, f a = some b ∧ Q a b) : ∃ bs, as.mapM f = some bs ∧ List.Forall₂ Q as bs := by
  induction as with
  | nil => exact ⟨[], rfl, List.Forall₂.nil⟩
  | cons a as ih =>
    rw [List.forall_mem_cons] at h
    obtain ⟨⟨b, hb, hQ⟩, hrest⟩ := h
    obtain ⟨bs, hbs, hall⟩ := ih hrest
    refine ⟨b :: bs, ?_, List.Forall₂.cons hQ hall⟩
    rw [List.mapM_cons, hb, hbs]
    rfl
