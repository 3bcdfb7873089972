import Ketabdaneh.Library.Transaction.Concurrent
import Ketabdaneh.Library.Transaction.Rethrow

/-!
This module contains that programs which end their transaction right after a write never wait for
each other in a circle: whatever has been run, what is left can be run to its end.
-/

namespace Transaction

variable {ι Change Store Write Event ε α β : Type}

namespace Program

/-- The transaction is committed, or taken back, by what comes next. -/
def Ends (p : Program Store Write Event ε α) : Prop :=
  match p.settle with
  | .commit _ => True
  | .throw _ => True
  | _ => False

/-- Each write is committed or taken back by the statement after it. -/
def AtOnce : Program Store Write Event ε α → Prop
  | .pure _ => True
  | .throw _ => True
  | .select next => ∀ s, (next s).AtOnce
  | .write _ next => next.AtOnce ∧ next.Ends
  | .commit next => next.AtOnce
  | .emit _ next => next.AtOnce

theorem AtOnce.settle {p : Program Store Write Event ε α} (h : p.AtOnce) : p.settle.AtOnce := by
  induction p with
  | emit event next ih => exact ih h
  | _ => exact h

theorem Ends.bind {p : Program Store Write Event ε α} (h : p.Ends)
    (f : α → Program Store Write Event ε β) : (p >>= f).Ends := by
  induction p with
  | emit event next ih => exact ih h
  | commit next => trivial
  | throw e => trivial
  | _ => exact absurd h not_false

theorem AtOnce.bind {p : Program Store Write Event ε α} {f : α → Program Store Write Event ε β}
    (h : p.AtOnce) (hf : ∀ a, (f a).AtOnce) : (p >>= f).AtOnce := by
  induction p with
  | pure a => exact hf a
  | throw e => trivial
  | select next ih => exact fun s => ih s (h s)
  | write write next ih => exact ⟨ih h.1, h.2.bind f⟩
  | commit next ih => exact ih h
  | emit event next ih => exact ih h

theorem AtOnce.query_bind {g : Store → α} {f : α → Program Store Write Event ε β}
    (h : ∀ a, (f a).AtOnce) : (query g >>= f).AtOnce := by
  apply AtOnce.bind
  . intro s
    trivial
  . exact h

theorem Ends.mapError {ε' : Type} {p : Program Store Write Event ε α} (h : p.Ends) (f : ε → ε')
    : (p.mapError f).Ends := by
  induction p with
  | emit event next ih => exact ih h
  | commit next => trivial
  | throw e => trivial
  | _ => exact absurd h not_false

theorem AtOnce.mapError {ε' : Type} {p : Program Store Write Event ε α} (h : p.AtOnce) (f : ε → ε')
    : (p.mapError f).AtOnce := by
  induction p with
  | pure a => trivial
  | throw e => trivial
  | select next ih => exact fun s => ih s (h s)
  | write write next ih => exact ⟨ih h.1, h.2.mapError f⟩
  | commit next ih => exact ih h
  | emit event next ih => exact ih h

end Program

open Program

/-- The session has nothing uncommitted, unless it ends its transaction next. -/
structure Session.AtOnce (session : Session Store Write Event ε α) : Prop where
  program : session.program.AtOnce
  pending : session.pending ≠ [] → session.program.Ends

namespace Schema

variable {schema : Schema Store Write ε} {s t : Store} {session next : Session Store Write Event ε α}

theorem atOnce_advance (h : session.AtOnce) (hadvance : schema.advance s session = some (t, next))
    : next.AtOnce := by
  have hprogram := h.program.settle
  have hpending := h.pending
  unfold Program.Ends at hpending
  unfold advance at hadvance
  split at hadvance
  . next rest hsettle =>
    rw [hsettle] at hprogram hpending
    split at hadvance
    . next own _ =>
      rw [Option.some.injEq, Prod.mk.injEq] at hadvance
      rw [← hadvance.2]
      exact ⟨hprogram own, fun hne => absurd (hpending hne) not_false⟩
    . rw [Option.some.injEq, Prod.mk.injEq] at hadvance
      rw [← hadvance.2]
      exact ⟨trivial, fun _ => trivial⟩
  . next write rest hsettle =>
    rw [hsettle] at hprogram
    split at hadvance
    . rw [Option.some.injEq, Prod.mk.injEq] at hadvance
      rw [← hadvance.2]
      exact ⟨hprogram.1, fun _ => hprogram.2⟩
    . rw [Option.some.injEq, Prod.mk.injEq] at hadvance
      rw [← hadvance.2]
      exact ⟨trivial, fun _ => trivial⟩
  . next rest hsettle =>
    rw [hsettle] at hprogram
    split at hadvance
    . rw [Option.some.injEq, Prod.mk.injEq] at hadvance
      rw [← hadvance.2]
      exact ⟨hprogram, fun hne => absurd rfl hne⟩
    . rw [Option.some.injEq, Prod.mk.injEq] at hadvance
      rw [← hadvance.2]
      exact ⟨trivial, fun _ => trivial⟩
  . contradiction

variable [Fintype ι] [DecidableEq ι] {change : Store → Change → Store}
  {w w' : System ι Store Write Event ε α} {i : ι}

omit [Fintype ι] [DecidableEq ι] in
theorem held_of_ended (h : (w.sessions i).outcome ≠ none) : (w.sessions i).held = [] := by
  unfold Session.outcome at h
  unfold Session.held
  split
  . rfl
  . rfl
  . next hpure hthrow =>
    split at h
    . next a hsettle => exact absurd hsettle (hpure a)
    . next e hsettle => exact absurd hsettle (hthrow e)
    . contradiction

/-- A session that does not have to wait takes its next statement. -/
theorem act_of_advance (hwaits : schema.waits w i = false)
    (hadvance : schema.advance w.store (w.sessions i) = some (s, next))
    : schema.act change w (.statement i)
        =
      some { store := s, sessions := Function.update w.sessions i next } := by
  rw [act, hwaits, hadvance]
  rfl

/-- The session is run to its end, and the others stay as they are. -/
def Completes (schema : Schema Store Write ε) (change : Store → Change → Store)
    (w : System ι Store Write Event ε α) (i : ι) : Prop :=
  ∃ n w', Transition.run (schema.act change) w (List.replicate n (.statement i)) = some w'
    ∧ (w'.sessions i).outcome ≠ none ∧ ∀ j, j ≠ i → w'.sessions j = w.sessions j

theorem completes_of_ended (h : (w.sessions i).outcome ≠ none) : Completes schema change w i :=
  ⟨0, w, rfl, h, fun _ _ => rfl⟩

theorem waits_of_free (hfree : ∀ j, j ≠ i → (w.sessions j).held = []) : schema.waits w i = false := by
  unfold waits
  split
  . rw [decide_eq_false_iff_not]
    rintro ⟨j, hj, hany⟩
    rw [hfree j hj] at hany
    contradiction
  . rfl

theorem completes_of_advance (hfree : ∀ j, j ≠ i → (w.sessions j).held = [])
    (hadvance : schema.advance w.store (w.sessions i) = some (s, next))
    (hrest : ∀ w' : System ι Store Write Event ε α, w'.sessions i = next →
      (∀ j, j ≠ i → (w'.sessions j).held = []) → Completes schema change w' i)
    : Completes schema change w i := by
  have hothers : ∀ j, j ≠ i → Function.update w.sessions i next j = w.sessions j :=
    fun j hj => Function.update_of_ne hj next w.sessions
  rcases hrest { store := s, sessions := Function.update w.sessions i next }
    (Function.update_self i next w.sessions)
    (fun j hj => (congrArg Session.held (hothers j hj)).trans (hfree j hj))
    with ⟨n, w', hrun, hended, hkept⟩
  refine ⟨n + 1, w', ?_, hended, ?_⟩
  . rw [List.replicate_succ, Transition.run_cons, act_of_advance (waits_of_free hfree) hadvance]
    exact hrun
  . intro j hj
    rw [hkept j hj]
    exact hothers j hj

theorem completes_of_throw {e : ε} (hfree : ∀ j, j ≠ i → (w.sessions j).held = [])
    (hadvance : schema.advance w.store (w.sessions i) = some (s, { program := .throw e }))
    : Completes schema change w i := by
  apply completes_of_advance hfree hadvance
  intro w' hw' _
  apply completes_of_ended
  rw [hw']
  exact Option.some_ne_none _

/-- With nothing held by the others, a session can be run to its end. -/
theorem completes_of_free (p : Program Store Write Event ε α)
    (hsettle : (w.sessions i).program.settle = p.settle)
    (hfree : ∀ j, j ≠ i → (w.sessions j).held = []) : Completes schema change w i := by
  induction p generalizing w with
  | pure a =>
    apply completes_of_ended
    unfold Session.outcome
    rw [hsettle]
    exact Option.some_ne_none _
  | throw e =>
    apply completes_of_ended
    unfold Session.outcome
    rw [hsettle]
    exact Option.some_ne_none _
  | select next ih =>
    replace hsettle : (w.sessions i).program.settle = .select next := hsettle
    cases hview : schema.view w.store (w.sessions i).pending with
    | error e =>
      apply completes_of_throw hfree
      rw [advance, hsettle]
      simp only [hview]
      rfl
    | ok own =>
      apply completes_of_advance hfree
      . rw [advance, hsettle]
        simp only [hview]
        rfl
      . intro w' hw' hfree'
        exact ih own (by rw [hw']) hfree'
  | write write next ih =>
    replace hsettle : (w.sessions i).program.settle = .write write next := hsettle
    cases hview : schema.view w.store ((w.sessions i).pending ++ [write]) with
    | error e =>
      apply completes_of_throw hfree
      rw [advance, hsettle]
      simp only [hview]
      rfl
    | ok own =>
      apply completes_of_advance hfree
      . rw [advance, hsettle]
        simp only [hview]
        rfl
      . intro w' hw' hfree'
        exact ih (by rw [hw']) hfree'
  | commit next ih =>
    replace hsettle : (w.sessions i).program.settle = .commit next := hsettle
    cases hview : schema.view w.store (w.sessions i).pending with
    | error e =>
      apply completes_of_throw hfree
      rw [advance, hsettle]
      simp only [hview]
      rfl
    | ok own =>
      apply completes_of_advance hfree
      . rw [advance, hsettle]
        simp only [hview]
        rfl
      . intro w' hw' hfree'
        exact ih (by rw [hw']) hfree'
  | emit event next ih => exact ih hsettle hfree

/-- Sessions take statements, these and no others. -/
def Onward (schema : Schema Store Write ε) (change : Store → Change → Store)
    (w w' : System ι Store Write Event ε α) : Prop :=
  ∃ sessions : List ι,
    Transition.run (schema.act change) w (sessions.map Action.statement) = some w'

theorem Onward.trans {w'' : System ι Store Write Event ε α} (h : Onward schema change w w')
    (h' : Onward schema change w' w'') : Onward schema change w w'' := by
  rcases h with ⟨sessions, h⟩
  rcases h' with ⟨sessions', h'⟩
  refine ⟨sessions ++ sessions', ?_⟩
  rw [List.map_append, Transition.run_append, h]
  exact h'

theorem Onward.refl (w : System ι Store Write Event ε α) : Onward schema change w w :=
  ⟨[], rfl⟩

theorem Completes.onward (h : Completes schema change w i)
    : ∃ w', Onward schema change w w' ∧ (w'.sessions i).outcome ≠ none
        ∧ ∀ j, j ≠ i → w'.sessions j = w.sessions j := by
  rcases h with ⟨n, w', hrun, hended, hothers⟩
  refine ⟨w', ⟨List.replicate n i, ?_⟩, hended, hothers⟩
  rw [List.map_replicate]
  exact hrun

theorem atOnce_act (h : ∀ i, (w.sessions i).AtOnce) {action : Action ι Change}
    (hact : schema.act change w action = some w') : ∀ i, (w'.sessions i).AtOnce := by
  intro i
  cases action with
  | change c =>
    rw [act, Option.some.injEq] at hact
    rw [← hact]
    exact h i
  | statement j =>
    rcases act_statement hact with ⟨t, next, hadvance, _, hsessions⟩
    rw [hsessions]
    by_cases hj : i = j
    . rw [hj, Function.update_self]
      exact atOnce_advance (h j) hadvance
    . rw [Function.update_of_ne hj]
      exact h i

/-- What is held is given free by the next statement of its session. -/
theorem release (schema : Schema Store Write ε) (change : Store → Change → Store)
    (h : (w.sessions i).AtOnce) (hheld : (w.sessions i).held ≠ [])
    : ∃ w', schema.act change w (.statement i) = some w' ∧ (w'.sessions i).held = []
        ∧ ∀ j, j ≠ i → w'.sessions j = w.sessions j := by
  have hcommit : ∃ rest, (w.sessions i).program.settle = .commit rest := by
    have hends := h.pending
    unfold Session.held at hheld
    unfold Program.Ends at hends
    split at hheld
    . contradiction
    . contradiction
    . next hthrow =>
      specialize hends hheld
      split at hends
      . next rest hsettle => exact ⟨rest, hsettle⟩
      . next e hsettle => exact absurd hsettle (hthrow e)
      . exact absurd hends not_false
  rcases hcommit with ⟨rest, hsettle⟩
  have hwaits : schema.waits w i = false := by
    unfold waits
    rw [hsettle]
  have hadvance : ∃ s next, schema.advance w.store (w.sessions i) = some (s, next)
      ∧ next.held = [] := by
    unfold advance
    rw [hsettle]
    dsimp only
    cases schema.view w.store (w.sessions i).pending with
    | error e => exact ⟨_, _, rfl, rfl⟩
    | ok own =>
      refine ⟨_, _, rfl, ?_⟩
      unfold Session.held
      split
      . rfl
      . rfl
      . rfl
  rcases hadvance with ⟨s, next, hadvance, hfree⟩
  refine ⟨_, act_of_advance hwaits hadvance, ?_, ?_⟩
  . exact (congrArg Session.held (Function.update_self i next w.sessions)).trans hfree
  . intro j hj
    exact Function.update_of_ne hj next w.sessions

/-- All that is held can be given free. -/
theorem releases (schema : Schema Store Write ε) (change : Store → Change → Store)
    (h : ∀ i, (w.sessions i).AtOnce) (sessions : List ι)
    : ∃ w' : System ι Store Write Event ε α, Onward schema change w w'
        ∧ (∀ i, (w'.sessions i).AtOnce) ∧ (∀ i ∈ sessions, (w'.sessions i).held = [])
        ∧ ∀ i, (w.sessions i).held = [] → (w'.sessions i).held = [] := by
  induction sessions generalizing w with
  | nil => exact ⟨w, Onward.refl w, h, by simp, fun _ hfree => hfree⟩
  | cons i sessions ih =>
    by_cases hheld : (w.sessions i).held = []
    . rcases ih h with ⟨w', honward, hatonce, hfree, hkept⟩
      refine ⟨w', honward, hatonce, ?_, hkept⟩
      rw [List.forall_mem_cons]
      exact ⟨hkept i hheld, hfree⟩
    . rcases release schema change (h i) hheld with ⟨w₁, hact, hreleased, hothers⟩
      rcases ih (atOnce_act h hact) with ⟨w', honward, hatonce, hfree, hkept⟩
      have hstep : Onward schema change w w₁ := by
        refine ⟨[i], ?_⟩
        rw [List.map_singleton, Transition.run_cons, hact]
        rfl
      refine ⟨w', hstep.trans honward, hatonce, ?_, ?_⟩
      . rw [List.forall_mem_cons]
        exact ⟨hkept i hreleased, hfree⟩
      . intro j hj
        apply hkept
        by_cases heq : j = i
        . rw [heq]
          exact hreleased
        . rw [hothers j heq]
          exact hj

/-- With nothing held, one session after the other can be run to its end. -/
theorem completes_all (schema : Schema Store Write ε) (change : Store → Change → Store)
    (hfree : ∀ i, (w.sessions i).held = []) (sessions : List ι)
    : ∃ w' : System ι Store Write Event ε α, Onward schema change w w'
        ∧ (∀ i, (w'.sessions i).held = []) ∧ (∀ i ∈ sessions, (w'.sessions i).outcome ≠ none)
        ∧ ∀ i, (w.sessions i).outcome ≠ none → (w'.sessions i).outcome ≠ none := by
  induction sessions generalizing w with
  | nil => exact ⟨w, Onward.refl w, hfree, by simp, fun _ hended => hended⟩
  | cons i sessions ih =>
    have hcompletes : Completes schema change w i :=
      completes_of_free (w.sessions i).program rfl (fun j _ => hfree j)
    rcases hcompletes.onward with ⟨w₁, hfirst, hended, hothers⟩
    have hfree₁ : ∀ j, (w₁.sessions j).held = [] := by
      intro j
      by_cases heq : j = i
      . rw [heq]
        exact held_of_ended hended
      . rw [hothers j heq]
        exact hfree j
    rcases ih hfree₁ with ⟨w', honward, hfree', hall, hkept⟩
    refine ⟨w', hfirst.trans honward, hfree', ?_, ?_⟩
    . rw [List.forall_mem_cons]
      exact ⟨hkept i hended, hall⟩
    . intro j hj
      apply hkept
      by_cases heq : j = i
      . rw [heq]
        exact hended
      . rw [hothers j heq]
        exact hj

/-- Whatever has been run, the sessions can go on until all of them have ended. -/
theorem completes {programs : ι → Program Store Write Event ε α} (hatonce : ∀ i, (programs i).AtOnce)
    {schedule : List (Action ι Change)}
    (hrun : Transition.run (schema.act change) (System.start s programs) schedule = some w)
    : ∃ w' : System ι Store Write Event ε α, Onward schema change w w'
        ∧ ∀ i, (w'.sessions i).outcome ≠ none := by
  have hstart : ∀ i, ((System.start s programs).sessions i).AtOnce :=
    fun i => ⟨hatonce i, fun hne => absurd rfl hne⟩
  have hw : ∀ i, (w.sessions i).AtOnce :=
    @Transition.run_keeps _ _ _ (fun w => ∀ i, (w.sessions i).AtOnce)
      (fun _ _ _ h hact => atOnce_act h hact) _ _ _ hstart hrun
  rcases releases schema change hw Finset.univ.toList with ⟨w₁, hreleases, _, hfree, _⟩
  rcases completes_all schema change (fun i => hfree i (by simp)) Finset.univ.toList with
    ⟨w', hcompletes, _, hended, _⟩
  exact ⟨w', hreleases.trans hcompletes, fun i => hended i (by simp)⟩

end Schema

end Transaction
