import Ketabdaneh.Library.Transaction.Concurrent
import Mathlib.Order.Basic

/-!
This module contains what can be said of a program in a store that others make grow: what it has
committed when it ends, and what it knows of the store by then.
-/

namespace Transaction

variable {ι Change Store Write Event Event' ε ε' ε'' α β : Type}

/-- Goes on after what a program returns, and after what it throws. -/
def Program.handle (seen : Event → Event') (returned : α → Program Store Write Event' ε' β)
    (thrown : ε → Program Store Write Event' ε' β)
    : Program Store Write Event ε α → Program Store Write Event' ε' β
  | .pure a => returned a
  | .throw e => thrown e
  | .select next => .select fun s => (next s).handle seen returned thrown
  | .write w next => .write w (next.handle seen returned thrown)
  | .commit next => .commit (next.handle seen returned thrown)
  | .emit event next => .emit (seen event) (next.handle seen returned thrown)

theorem Program.bind_eq_handle (p : Program Store Write Event ε α)
    (f : α → Program Store Write Event ε β) : (p >>= f) = p.handle id f .throw := by
  induction p with
  | pure a => rfl
  | throw e => rfl
  | select next ih => exact congrArg Program.select (funext ih)
  | write w next ih => exact congrArg (Program.write w) ih
  | commit next ih => exact congrArg Program.commit ih
  | emit event next ih => exact congrArg (Program.emit event) ih

theorem Schema.view_singleton (schema : Schema Store Write ε) (s : Store) (w : Write)
    : schema.view s [w] = schema.apply s w := by
  unfold view
  rw [List.foldlM_cons]
  cases schema.apply s w with
  | ok t => rfl
  | error e => rfl

/-- How a program ends. It fails where the store does not take what it has written. -/
inductive Ending (ε ε' α : Type) where
  | returned (a : α)
  | thrown (e : ε)
  | failed (e : ε')

def Ending.outcome : Ending ε ε α → Except ε α
  | .returned a => .ok a
  | .thrown e => .error e
  | .failed e => .error e

/-- What is said of the store where a program ends, of what it committed, and of what it did not. -/
abbrev Post (Store Write ε ε' α : Type) :=
  Store → List Write → List Write → Ending ε ε' α → Prop

section

variable [Preorder Store]

/-- What a program knows of the store is not lost when that grows. -/
def Post.Lasts (post : Post Store Write ε ε' α) : Prop :=
  ∀ {s t log pending ending}, s ≤ t → post s log pending ending → post t log pending ending

/-- However the store grows between the statements, the program ends as is said. -/
def Program.Outline (schema : Schema Store Write ε') (post : Post Store Write ε ε' α)
    : Store → List Write → List Write → Program Store Write Event ε α → Prop
  | s, log, pending, .pure a => post s log pending (.returned a)
  | s, log, pending, .throw e => post s log pending (.thrown e)
  | s, log, pending, .select next => ∀ t, s ≤ t →
    (∀ v, schema.view t pending = .ok v → (next v).Outline schema post t log pending)
      ∧ ∀ e, schema.view t pending = .error e → post t log [] (.failed e)
  | s, log, pending, .write w next => ∀ t, s ≤ t →
    (∀ v, schema.view t (pending ++ [w]) = .ok v → next.Outline schema post t log (pending ++ [w]))
      ∧ ∀ e, schema.view t (pending ++ [w]) = .error e → post t log [] (.failed e)
  | s, log, pending, .commit next => ∀ t, s ≤ t →
    (∀ v, schema.view t pending = .ok v → next.Outline schema post v (log ++ pending) [])
      ∧ ∀ e, schema.view t pending = .error e → post t log [] (.failed e)
  | s, log, pending, .emit _ next => next.Outline schema post s log pending

/-- What is to be said of where a program ends, for the sake of what comes after it. -/
def Post.before (schema : Schema Store Write ε') (post : Post Store Write ε'' ε' β)
    (returned : α → Program Store Write Event ε'' β)
    (thrown : ε → Program Store Write Event ε'' β) : Post Store Write ε ε' α
  | s, log, pending, .returned a => (returned a).Outline schema post s log pending
  | s, log, pending, .thrown e => (thrown e).Outline schema post s log pending
  | s, log, pending, .failed e => post s log pending (.failed e)

namespace Program

variable {schema : Schema Store Write ε'} {s t : Store} {log pending : List Write}

theorem Outline.weaken {post post' : Post Store Write ε ε' α} {p : Program Store Write Event ε α}
    (h : p.Outline schema post s log pending)
    (himp : ∀ {s log pending ending}, post s log pending ending → post' s log pending ending)
    : p.Outline schema post' s log pending := by
  induction p generalizing s log pending with
  | pure a => exact himp h
  | throw e => exact himp h
  | select next ih =>
    intro t hst
    refine ⟨?_, ?_⟩
    . intro v hv
      exact ih v ((h t hst).1 v hv)
    . intro e he
      exact himp ((h t hst).2 e he)
  | write w next ih =>
    intro t hst
    refine ⟨?_, ?_⟩
    . intro v hv
      exact ih ((h t hst).1 v hv)
    . intro e he
      exact himp ((h t hst).2 e he)
  | commit next ih =>
    intro t hst
    refine ⟨?_, ?_⟩
    . intro v hv
      exact ih ((h t hst).1 v hv)
    . intro e he
      exact himp ((h t hst).2 e he)
  | emit event next ih => exact ih h

theorem Outline.mono {post : Post Store Write ε ε' α} (hpost : post.Lasts)
    {p : Program Store Write Event ε α} (h : p.Outline schema post s log pending) (hst : s ≤ t)
    : p.Outline schema post t log pending := by
  induction p generalizing log pending with
  | pure a => exact hpost hst h
  | throw e => exact hpost hst h
  | select next ih =>
    intro u htu
    exact h u (hst.trans htu)
  | write w next ih =>
    intro u htu
    exact h u (hst.trans htu)
  | commit next ih =>
    intro u htu
    exact h u (hst.trans htu)
  | emit event next ih => exact ih h

theorem outline_settle {post : Post Store Write ε ε' α} {p : Program Store Write Event ε α}
    : p.settle.Outline schema post s log pending ↔ p.Outline schema post s log pending := by
  induction p with
  | emit event next ih => exact ih
  | _ => rfl

/-- What comes after a program starts from what is said of where that ends. -/
theorem Outline.handle {post : Post Store Write ε'' ε' β} {seen : Event → Event'}
    {returned : α → Program Store Write Event' ε'' β}
    {thrown : ε → Program Store Write Event' ε'' β} {p : Program Store Write Event ε α}
    (h : p.Outline schema (post.before schema returned thrown) s log pending)
    : (p.handle seen returned thrown).Outline schema post s log pending := by
  induction p generalizing s log pending with
  | pure a => exact h
  | throw e => exact h
  | select next ih =>
    intro t hst
    refine ⟨?_, (h t hst).2⟩
    intro v hv
    exact ih v ((h t hst).1 v hv)
  | write w next ih =>
    intro t hst
    refine ⟨?_, (h t hst).2⟩
    intro v hv
    exact ih ((h t hst).1 v hv)
  | commit next ih =>
    intro t hst
    refine ⟨?_, (h t hst).2⟩
    intro v hv
    exact ih ((h t hst).1 v hv)
  | emit event next ih => exact ih h

theorem Outline.bind {post : Post Store Write ε ε' β} {f : α → Program Store Write Event ε β}
    {p : Program Store Write Event ε α}
    (h : p.Outline schema (post.before schema f .throw) s log pending)
    : (p >>= f).Outline schema post s log pending := by
  rw [bind_eq_handle]
  exact Outline.handle h

/-- A query with nothing written before it. -/
theorem Outline.query_bind {post : Post Store Write ε ε' β} {read : Store → α}
    {f : α → Program Store Write Event ε β}
    (h : ∀ t, s ≤ t → (f (read t)).Outline schema post t log [])
    : (Program.query read >>= f).Outline schema post s log [] := by
  intro t hst
  refine ⟨?_, ?_⟩
  . intro v hv
    injection hv with hv
    rw [← hv]
    exact h t hst
  . intro e he
    injection he

end Program

end

end Transaction
