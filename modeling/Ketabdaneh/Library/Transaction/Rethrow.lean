import Ketabdaneh.Library.Transaction.Stable

/-!
This module contains programs whose exceptions are caught and thrown again as others, and how reads
that are settled follow each other.
-/

namespace Transaction

variable {Store Write Event ε ε' α β : Type}

def Program.mapError (f : ε → ε') : Program Store Write Event ε α → Program Store Write Event ε' α
  | .pure a => .pure a
  | .throw e => .throw (f e)
  | .select next => .select fun s => (next s).mapError f
  | .write w next => .write w (next.mapError f)
  | .commit next => .commit (next.mapError f)
  | .emit event next => .emit event (next.mapError f)

def Schema.mapError (f : ε → ε') (schema : Schema Store Write ε) : Schema Store Write ε' where
  apply s w := (schema.apply s w).mapError f
  conflicts := schema.conflicts

def Result.mapError (f : ε → ε') (result : Result Store Event ε α) : Result Store Event ε' α :=
  { result with outcome := result.outcome.mapError f }

theorem run_mapError (f : ε → ε') (schema : Schema Store Write ε) (committed own : Store)
    (p : Program Store Write Event ε α)
    : run (schema.mapError f).apply committed own (p.mapError f)
        =
      (run schema.apply committed own p).mapError f := by
  induction p generalizing committed own with
  | pure a => rfl
  | throw e => rfl
  | select next ih => exact ih own committed own
  | write w next ih =>
    simp only [Program.mapError, run, Schema.mapError]
    cases schema.apply own w with
    | ok t => exact ih committed t
    | error e => rfl
  | commit next ih => exact ih own own
  | emit event next ih =>
    rw [Program.mapError, run, ih]
    rfl

theorem Schema.view_mapError (f : ε → ε') (schema : Schema Store Write ε) (s : Store)
    (pending : List Write)
    : (schema.mapError f).view s pending = (schema.view s pending).mapError f := by
  unfold Schema.view
  induction pending generalizing s with
  | nil => rfl
  | cons w pending ih =>
    rw [List.foldlM_cons, List.foldlM_cons]
    show ((schema.apply s w).mapError f >>= _) = _
    cases schema.apply s w with
    | ok t => exact ih t
    | error e => rfl

theorem Program.bind_assoc {γ : Type} (p : Program Store Write Event ε α)
    (f : α → Program Store Write Event ε β) (g : β → Program Store Write Event ε γ)
    : (p >>= f >>= g) = (p >>= fun a => f a >>= g) := by
  induction p with
  | pure a => rfl
  | throw e => rfl
  | select next ih => exact congrArg Program.select (funext ih)
  | write w next ih => exact congrArg (Program.write w) ih
  | commit next ih => exact congrArg Program.commit ih
  | emit event next ih => exact congrArg (Program.emit event) ih

section

variable [Preorder Store] {schema : Schema Store Write ε} {s : Store} {pending : List Write}
variable {p : Program Store Write Event ε α} {outcome : Except ε α}

namespace Program

theorem Settled.mapError (f : ε → ε') (h : p.Settled outcome s)
    : (p.mapError f).Settled (outcome.mapError f) s := by
  induction p generalizing s with
  | pure a =>
    rw [show outcome = .ok a from h]
    rfl
  | throw e =>
    rw [show outcome = .error e from h]
    rfl
  | select next ih =>
    intro t hst
    exact ih t (h t hst)
  | write w next ih => exact absurd h id
  | commit next ih => exact absurd h id
  | emit event next ih => exact ih h

theorem Stable.mapError (f : ε → ε') (h : p.Stable schema pending s)
    : (p.mapError f).Stable (schema.mapError f) pending s := by
  induction p generalizing s pending with
  | pure a => exact h
  | throw e => trivial
  | select next ih =>
    refine ⟨h.1, ?_⟩
    intro t hst
    rcases h.2 t hst with ⟨outcome, hsettled⟩ | ⟨hrest, hsame⟩
    . exact Or.inl ⟨_, hsettled.mapError f⟩
    . refine Or.inr ⟨ih t hrest, ?_⟩
      intro u htu
      exact congrArg (mapError f) (hsame u htu)
  | write w next ih => exact ih h
  | commit next ih =>
    intro t u hst hview
    rw [Schema.view_mapError] at hview
    cases hinner : schema.view t pending with
    | error e =>
      rw [hinner] at hview
      contradiction
    | ok v =>
      rw [hinner] at hview
      injection hview with hview
      rw [← hview]
      rcases h t v hst hinner with ⟨hle, outcome, hsettled⟩
      exact ⟨hle, _, hsettled.mapError f⟩
  | emit event next ih => exact ih h

theorem Settled.bind {q : α → Program Store Write Event ε β} {a : α} {result : Except ε β}
    (h : p.Settled (.ok a) s) (hq : (q a).Settled result s) : (p >>= q).Settled result s := by
  induction p generalizing s with
  | pure b =>
    rw [show a = b from Except.ok.inj h] at hq
    exact hq
  | throw e => exact absurd h (by simp [Settled])
  | select next ih =>
    intro t hst
    exact ih t (h t hst) (hq.mono hst)
  | write w next ih => exact absurd h id
  | commit next ih => exact absurd h id
  | emit event next ih => exact ih h hq

theorem Settled.bind_error {q : α → Program Store Write Event ε β} {e : ε}
    (h : p.Settled (.error e) s) : (p >>= q).Settled (.error e) s := by
  induction p generalizing s with
  | pure b => exact absurd h (by simp [Settled])
  | throw e' => exact congrArg Except.error (Except.error.inj h)
  | select next ih =>
    intro t hst
    exact ih t (h t hst)
  | write w next ih => exact absurd h id
  | commit next ih => exact absurd h id
  | emit event next ih => exact ih h

theorem Settled.exists_bind {q : α → Program Store Write Event ε β}
    (h : p.Settled outcome s) (hq : ∀ a, ∃ result, (q a).Settled result s)
    : ∃ result, (p >>= q).Settled result s := by
  cases outcome with
  | ok a =>
    rcases hq a with ⟨result, hresult⟩
    exact ⟨result, h.bind hresult⟩
  | error e => exact ⟨.error e, h.bind_error⟩

/-- A query of what a growing store does not change. -/
theorem Settled.query {read : Store → α} (h : ∀ t, s ≤ t → read t = read s)
    : (Program.query read : Program Store Write Event ε α).Settled (.ok (read s)) s := by
  intro t hst
  show Except.ok (read s) = Except.ok (read t)
  rw [h t hst]

/-- What comes after a stable program may read on. -/
theorem Stable.bind {q : α → Program Store Write Event ε β} (h : p.Stable schema pending s)
    (hq : ∀ a t, s ≤ t → ∃ result, (q a).Settled result t) : (p >>= q).Stable schema pending s := by
  induction p generalizing s pending with
  | pure a =>
    rw [show pending = [] from h]
    rcases hq a s le_rfl with ⟨result, hresult⟩
    exact hresult.stable schema
  | throw e => trivial
  | select next ih =>
    refine ⟨h.1, ?_⟩
    intro t hst
    rcases h.2 t hst with ⟨outcome, hsettled⟩ | ⟨hrest, hsame⟩
    . left
      exact hsettled.exists_bind fun a => hq a t hst
    . right
      constructor
      . apply ih t hrest
        intro a u htu
        exact hq a u (hst.trans htu)
      . intro u htu
        exact congrArg (Program.bind · q) (hsame u htu)
  | write w next ih => exact ih h hq
  | commit next ih =>
    intro t u hst hview
    rcases h t u hst hview with ⟨hle, outcome, hsettled⟩
    exact ⟨hle, hsettled.exists_bind fun a => hq a u (hst.trans hle)⟩
  | emit event next ih => exact ih h hq

/-- With nothing beside it, what comes after a stable program goes on from the store it left. -/
theorem Stable.run_bind {own : Store} (h : p.Stable schema pending s)
    (hview : schema.view s pending = .ok own) (q : α → Program Store Write Event ε β)
    : (run schema.apply s own (p >>= q)).answer
        =
      match (run schema.apply s own p).answer with
      | (.ok a, t) => (run schema.apply t t (q a)).answer
      | (.error e, t) => (.error e, t) := by
  induction p generalizing s pending own with
  | pure a =>
    rw [show pending = [] from h] at hview
    injection hview with hview
    rw [← hview]
    rfl
  | throw e => rfl
  | select next ih =>
    rw [h.1] at hview
    injection hview with hview
    rw [← hview]
    rcases h.2 s le_rfl with ⟨outcome, hsettled⟩ | ⟨hrest, _⟩
    . exact ih s (hsettled.stable schema) rfl
    . exact ih s hrest rfl
  | write w next ih =>
    show (run schema.apply s own (.write w (next >>= q))).answer = _
    rw [run, run]
    cases happly : schema.apply own w with
    | error e => rfl
    | ok own' =>
      apply ih h
      unfold Schema.view at hview ⊢
      simp only [List.foldlM_append, hview, List.foldlM_cons, List.foldlM_nil, bind_pure]
      exact happly
  | commit next ih =>
    rcases h s own le_rfl hview with ⟨_, outcome, hsettled⟩
    exact ih (hsettled.stable schema) rfl
  | emit event next ih => exact ih h hview

/-- A query that decides the rest, or whose answer means the same later. -/
theorem Stable.query_bind {read : Store → α} {q : α → Program Store Write Event ε β}
    (h : ∀ t, s ≤ t → (∃ result, (q (read t)).Settled result t)
      ∨ (q (read t)).Stable schema [] t ∧ ∀ u, t ≤ u → q (read u) = q (read t))
    : (Program.query read >>= q).Stable schema [] s :=
  ⟨rfl, h⟩

/-- A first query, after which the program only reads. -/
theorem Stable.query_bind_settled {read : Store → α} {q : α → Program Store Write Event ε β}
    (h : ∀ t, s ≤ t → ∃ result, (q (read t)).Settled result t)
    : (Program.query read >>= q).Stable schema [] s := by
  apply Stable.query_bind
  intro t hst
  exact Or.inl (h t hst)

end Program

end

end Transaction
