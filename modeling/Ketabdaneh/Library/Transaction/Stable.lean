import Ketabdaneh.Library.Transaction.Concurrent
import Mathlib.Order.Basic

/-!
This module contains programs that read a store which only grows, and write to it once they have read.
However their statements are interleaved, each does what it does with nothing beside it.
-/

namespace Transaction

variable {ι Change Store Write Event ε α : Type}

def Result.answer (result : Result Store Event ε α) : Except ε α × Store :=
  (result.outcome, result.store)

variable [Preorder Store]

/-- What is left of the program reads only, and answers the same however the store has grown. -/
def Program.Settled (outcome : Except ε α) : Store → Program Store Write Event ε α → Prop
  | _, .pure a => outcome = .ok a
  | _, .throw e => outcome = .error e
  | s, .select next => ∀ t, s ≤ t → (next t).Settled outcome t
  | _, .write _ _ => False
  | _, .commit _ => False
  | s, .emit _ next => next.Settled outcome s

/--
What a query before the commit reads is still there when the store has grown, unless the program does
not write from then on.
-/
def Program.Stable (schema : Schema Store Write ε)
    : List Write → Store → Program Store Write Event ε α → Prop
  | pending, _, .pure _ => pending = []
  | _, _, .throw _ => True
  | pending, s, .select next => pending = [] ∧ ∀ t, s ≤ t →
    (∃ outcome, (next t).Settled outcome t)
      ∨ (next t).Stable schema [] t ∧ ∀ u, t ≤ u → next u = next t
  | pending, s, .write w next => next.Stable schema (pending ++ [w]) s
  | pending, s, .commit next => ∀ t u, s ≤ t → schema.view t pending = .ok u →
    t ≤ u ∧ ∃ outcome, next.Settled outcome u
  | pending, s, .emit _ next => next.Stable schema pending s

namespace Program

variable {schema : Schema Store Write ε} {pending : List Write} {s t : Store}
variable {p : Program Store Write Event ε α} {outcome : Except ε α}

theorem Settled.mono (h : p.Settled outcome s) (hst : s ≤ t) : p.Settled outcome t := by
  induction p with
  | pure a => exact h
  | throw e => exact h
  | select next ih =>
    intro u htu
    exact h u (hst.trans htu)
  | write write next ih => exact h
  | commit next ih => exact h
  | emit event next ih => exact ih h

theorem settled_settle : p.settle.Settled outcome s ↔ p.Settled outcome s := by
  induction p with
  | emit event next ih => exact ih
  | _ => rfl

theorem Stable.mono (h : p.Stable schema pending s) (hst : s ≤ t) : p.Stable schema pending t := by
  induction p generalizing pending with
  | pure a => exact h
  | throw e => trivial
  | select next ih =>
    refine ⟨h.1, ?_⟩
    intro u htu
    exact h.2 u (hst.trans htu)
  | write write next ih => exact ih h
  | commit next ih =>
    intro u v htu hview
    exact h u v (hst.trans htu) hview
  | emit event next ih => exact ih h

theorem Stable.settle (h : p.Stable schema pending s) : p.settle.Stable schema pending s := by
  induction p with
  | emit event next ih => exact ih h
  | _ => exact h

omit [Preorder Store] in
theorem answer_settle (apply : Apply Store Write ε) (committed own : Store)
    : (run apply committed own p.settle).answer = (run apply committed own p).answer := by
  induction p with
  | emit event next ih =>
    rw [Program.settle, ih]
    rfl
  | _ => rfl

/-- Run at once, a program that reads only gives its answer and leaves the store as it is. -/
theorem Settled.answer (h : p.Settled outcome s) (apply : Apply Store Write ε)
    : (run apply s s p).answer = (outcome, s) := by
  induction p with
  | pure a =>
    rw [show outcome = .ok a from h]
    rfl
  | throw e =>
    rw [show outcome = .error e from h]
    rfl
  | select next ih => exact ih s (h s le_rfl)
  | write write next ih => exact absurd h id
  | commit next ih => exact absurd h id
  | emit event next ih => exact ih h

/-- What is settled is stable, where nothing was written before. -/
theorem Settled.stable (h : p.Settled outcome s) (schema : Schema Store Write ε)
    : p.Stable schema [] s := by
  induction p with
  | pure a => rfl
  | throw e => trivial
  | select next ih =>
    refine ⟨rfl, ?_⟩
    intro t hst
    exact Or.inl ⟨outcome, h t hst⟩
  | write w next ih => exact absurd h id
  | commit next ih => exact absurd h id
  | emit event next ih => exact ih h

/-- Run at once, a stable program leaves a greater store. -/
theorem Stable.le_run {own : Store} (h : p.Stable schema pending s)
    (hview : schema.view s pending = .ok own) : s ≤ (run schema.apply s own p).store := by
  induction p generalizing pending own with
  | pure a => exact le_rfl
  | throw e => exact le_rfl
  | select next ih =>
    rw [h.1] at hview
    injection hview with hview
    rw [run, ← hview]
    rcases h.2 s le_rfl with ⟨outcome, hsettled⟩ | ⟨hrest, _⟩
    . exact le_of_eq (congrArg Prod.snd (hsettled.answer schema.apply)).symm
    . exact ih s hrest rfl
  | write w next ih =>
    rw [run]
    cases happly : schema.apply own w with
    | error e => exact le_rfl
    | ok own' =>
      apply ih h
      unfold Schema.view at hview ⊢
      simp only [List.foldlM_append, hview, List.foldlM_cons, List.foldlM_nil, bind_pure]
      exact happly
  | commit next ih =>
    rcases h s own le_rfl hview with ⟨hle, outcome, hsettled⟩
    exact hle.trans (le_of_eq (congrArg Prod.snd (hsettled.answer schema.apply)).symm)
  | emit event next ih => exact ih h hview

end Program

namespace Session

variable {schema : Schema Store Write ε} {session next : Session Store Write Event ε α} {s t u : Store}
variable {outcome : Except ε α}

omit [Preorder Store] in
theorem outcome_eq_some
    : session.outcome = some outcome
        ↔
      (∃ a, session.program.settle = .pure a ∧ outcome = .ok a)
        ∨ ∃ e, session.program.settle = .throw e ∧ outcome = .error e := by
  unfold Session.outcome
  cases session.program.settle with
  | pure a => simp [eq_comm]
  | throw e => simp [eq_comm]
  | _ => simp

/-- What comes of the session if the rest of it runs at once. -/
def resume (schema : Schema Store Write ε) (t : Store) (session : Session Store Write Event ε α)
    : Except ε α × Store :=
  match schema.view t session.pending with
  | .ok own => (run schema.apply t own session.program).answer
  | .error e => (.error e, t)

omit [Preorder Store] in
theorem resume_settle (schema : Schema Store Write ε) (t : Store)
    : resume schema t { session with program := session.program.settle } = resume schema t session := by
  unfold resume
  cases schema.view t session.pending with
  | ok own => exact Program.answer_settle schema.apply t own
  | error e => rfl

omit [Preorder Store] in
/-- A program that ends before its first statement ends so in a call. -/
theorem outcome_of_start {p : Program Store Write Event ε α}
    (h : Session.outcome { program := p } = some outcome) {apply : Apply Store Write ε} {s : Store}
    : (call apply s p).outcome = outcome := by
  have hanswer := congrArg Prod.fst (Program.answer_settle apply s s (p := p))
  refine Eq.trans hanswer.symm ?_
  rw [outcome_eq_some] at h
  rcases h with ⟨a, hsettle, houtcome⟩ | ⟨e, hsettle, houtcome⟩
  . rw [show p.settle = .pure a from hsettle, houtcome]
    rfl
  . rw [show p.settle = .throw e from hsettle, houtcome]
    rfl

/-- The session has taken effect: its answer is decided. -/
structure Decided (s : Store) (session : Session Store Write Event ε α) (outcome : Except ε α)
    : Prop where
  settled : session.program.Settled outcome s
  pending : session.pending = [] ∨ session.outcome ≠ none

/-- The session has not taken effect: it comes to the same if the call begins now. -/
structure Undecided (schema : Schema Store Write ε) (s : Store)
    (session : Session Store Write Event ε α) (p : Program Store Write Event ε α) : Prop where
  stable : session.program.Stable schema session.pending s
  resume : ∀ t, s ≤ t → (call schema.apply t p).answer = session.resume schema t

theorem Decided.mono (h : session.Decided s outcome) (hst : s ≤ t) : session.Decided t outcome where
  settled := h.settled.mono hst
  pending := h.pending

theorem Undecided.mono {p : Program Store Write Event ε α} (h : session.Undecided schema s p)
    (hst : s ≤ t) : session.Undecided schema t p where
  stable := h.stable.mono hst
  resume u htu := h.resume u (hst.trans htu)

theorem Decided.outcome_eq {outcome' : Except ε α} (h : session.Decided s outcome)
    (h' : session.outcome = some outcome') : outcome' = outcome := by
  have hsettled := Program.settled_settle.mpr h.settled
  rw [outcome_eq_some] at h'
  rcases h' with ⟨a, hsettle, houtcome⟩ | ⟨e, hsettle, houtcome⟩
  . rw [hsettle] at hsettled
    rw [houtcome, show outcome = .ok a from hsettled]
  . rw [hsettle] at hsettled
    rw [houtcome, show outcome = .error e from hsettled]

/-- A decided session only reads on. -/
theorem Decided.advance (h : session.Decided s outcome)
    (hadvance : schema.advance s session = some (t, next)) : t = s ∧ next.Decided s outcome := by
  have hsettled := Program.settled_settle.mpr h.settled
  have hended : session.outcome = none := by
    by_contra hne
    rw [Schema.advance_ended hne] at hadvance
    contradiction
  have hpending := h.pending.resolve_right (absurd hended)
  unfold Schema.advance at hadvance
  rw [hpending] at hadvance
  cases hsettle : session.program.settle with
  | pure a =>
    rw [hsettle] at hadvance
    contradiction
  | throw e =>
    rw [hsettle] at hadvance
    contradiction
  | select reads =>
    rw [hsettle] at hadvance hsettled
    injection hadvance with hadvance
    injection hadvance with hstore hnext
    rw [← hnext]
    exact ⟨hstore.symm, hsettled s le_rfl, Or.inl rfl⟩
  | write write rest =>
    rw [hsettle] at hsettled
    exact absurd hsettled id
  | commit rest =>
    rw [hsettle] at hsettled
    exact absurd hsettled id
  | emit event rest =>
    rw [hsettle] at hadvance
    contradiction

omit [Preorder Store] in
theorem resume_of_settle {p : Program Store Write Event ε α} (h : session.program.settle = p)
    (schema : Schema Store Write ε) (t : Store)
    : session.resume schema t = Session.resume schema t { session with program := p } := by
  rw [← h, resume_settle]

omit [Preorder Store] in
theorem resume_write {write : Write} {rest : Program Store Write Event ε α}
    (h : session.program.settle = .write write rest) (t : Store)
    : session.resume schema t
        =
      Session.resume schema t { program := rest, pending := session.pending ++ [write] } := by
  rw [resume_of_settle h]
  unfold resume Schema.view
  dsimp only
  rw [List.foldlM_append]
  cases session.pending.foldlM schema.apply t with
  | error e => rfl
  | ok own =>
    simp only [List.foldlM_cons, List.foldlM_nil, bind_pure, run]
    show _ = match schema.apply own write with
      | .ok own => (run schema.apply t own rest).answer
      | .error e => (.error e, t)
    cases schema.apply own write with
    | error e => rfl
    | ok own => rfl

/-- A session that has ended is decided, if it was not before. -/
theorem Undecided.ended {p : Program Store Write Event ε α} {own : Store}
    (h : session.Undecided schema s p) (hview : schema.view s session.pending = .ok own)
    (hended : session.outcome = some outcome)
    : (call schema.apply s p).answer = (outcome, s) ∧ session.Decided s outcome := by
  have hresume := h.resume s le_rfl
  have hsettled : session.program.Settled outcome s := by
    rw [← Program.settled_settle]
    rw [outcome_eq_some] at hended
    rcases hended with ⟨a, hsettle, houtcome⟩ | ⟨e, hsettle, houtcome⟩
    . rw [hsettle]
      exact houtcome
    . rw [hsettle]
      exact houtcome
  constructor
  . rw [hresume, Session.resume, hview]
    dsimp only
    rw [← Program.answer_settle]
    rw [outcome_eq_some] at hended
    rcases hended with ⟨a, hsettle, houtcome⟩ | ⟨e, hsettle, houtcome⟩
    . rw [hsettle, houtcome]
      rfl
    . rw [hsettle, houtcome]
      rfl
  . refine ⟨hsettled, Or.inr ?_⟩
    rw [hended]
    simp

/-- The session takes effect, in a store that it leaves at most greater. -/
structure Takes (schema : Schema Store Write ε) (s t : Store) (p : Program Store Write Event ε α)
    (next : Session Store Write Event ε α) (outcome : Except ε α) : Prop where
  le : s ≤ t
  answer : (call schema.apply s p).answer = (outcome, t)
  decided : next.Decided t outcome

theorem Undecided.takes_or {p : Program Store Write Event ε α} {own : Store}
    (h : session.Undecided schema s p) (hview : schema.view s session.pending = .ok own)
    : session.Undecided schema s p ∧ session.outcome = none
        ∨ ∃ outcome, Takes schema s s p session outcome := by
  cases houtcome : session.outcome with
  | none => exact Or.inl ⟨h, rfl⟩
  | some outcome =>
    have hended := h.ended hview houtcome
    exact Or.inr ⟨outcome, le_rfl, hended.1, hended.2⟩

/-- A statement fails, and with it the session. -/
theorem Undecided.takes_error {p : Program Store Write Event ε α} {e : ε}
    (h : session.Undecided schema s p) (hresume : session.resume schema s = (.error e, s))
    : Takes schema s s p { program := .throw e } (.error e) where
  le := le_rfl
  answer := by rw [h.resume s le_rfl, hresume]
  decided := ⟨rfl, Or.inl rfl⟩

/-- An undecided session reads or writes on, or takes effect with its next statement. -/
theorem Undecided.advance {p : Program Store Write Event ε α} (h : session.Undecided schema s p)
    (hadvance : schema.advance s session = some (t, next))
    : t = s ∧ next.Undecided schema s p ∧ next.outcome = none
        ∨ ∃ outcome, Takes schema s t p next outcome := by
  have hstable := h.stable.settle
  unfold Schema.advance at hadvance
  cases hsettle : session.program.settle with
  | pure a =>
    rw [hsettle] at hadvance
    contradiction
  | throw e =>
    rw [hsettle] at hadvance
    contradiction
  | select reads =>
    rw [hsettle] at hadvance hstable
    rcases hstable with ⟨hpending, hreads⟩
    rw [hpending] at hadvance
    injection hadvance with hadvance
    injection hadvance with hstore hnext
    rw [← hstore, ← hnext]
    have hresume : ∀ u, session.resume schema u = (run schema.apply u u (reads u)).answer := by
      intro u
      rw [resume_of_settle hsettle, hpending]
      rfl
    rcases hreads s le_rfl with ⟨outcome, hsettled⟩ | ⟨hrest, hsame⟩
    . right
      refine ⟨outcome, le_rfl, ?_, hsettled, Or.inl rfl⟩
      rw [h.resume s le_rfl, hresume]
      apply hsettled.answer
    . have hundecided : Undecided schema s { program := reads s } p := by
        refine ⟨hrest, ?_⟩
        intro u hsu
        rw [h.resume u hsu, hresume, hsame u hsu]
        rfl
      rcases hundecided.takes_or rfl with hnext | htakes
      . exact Or.inl ⟨rfl, hnext⟩
      . exact Or.inr htakes
  | write write rest =>
    rw [hsettle] at hadvance hstable
    have hresume : ∀ u, session.resume schema u = Session.resume schema u
        { program := rest, pending := session.pending ++ [write] } := resume_write hsettle
    dsimp only at hadvance
    cases hview : schema.view s (session.pending ++ [write]) with
    | error e =>
      rw [hview] at hadvance
      injection hadvance with hadvance
      injection hadvance with hstore hnext
      rw [← hstore, ← hnext]
      refine Or.inr ⟨_, h.takes_error ?_⟩
      rw [hresume, Session.resume, hview]
    | ok own =>
      rw [hview] at hadvance
      injection hadvance with hadvance
      injection hadvance with hstore hnext
      rw [← hstore, ← hnext]
      have hundecided
          : Undecided schema s { program := rest, pending := session.pending ++ [write] } p := by
        refine ⟨hstable, ?_⟩
        intro u hsu
        rw [h.resume u hsu, hresume]
      rcases hundecided.takes_or hview with hnext | htakes
      . exact Or.inl ⟨rfl, hnext⟩
      . exact Or.inr htakes
  | commit rest =>
    rw [hsettle] at hadvance hstable
    have hresume := resume_of_settle hsettle schema s
    dsimp only at hadvance
    cases hview : schema.view s session.pending with
    | error e =>
      rw [hview] at hadvance
      injection hadvance with hadvance
      injection hadvance with hstore hnext
      rw [← hstore, ← hnext]
      refine Or.inr ⟨_, h.takes_error ?_⟩
      rw [hresume, Session.resume, hview]
    | ok own =>
      rw [hview] at hadvance
      injection hadvance with hadvance
      injection hadvance with hstore hnext
      rcases hstable s own le_rfl hview with ⟨hle, outcome, hsettled⟩
      rw [← hstore, ← hnext]
      refine Or.inr ⟨outcome, hle, ?_, hsettled, Or.inl rfl⟩
      rw [h.resume s le_rfl, hresume, Session.resume, hview]
      exact hsettled.answer schema.apply
  | emit event rest =>
    rw [hsettle] at hadvance
    contradiction

end Session

end Transaction
