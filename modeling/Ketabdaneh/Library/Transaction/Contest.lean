import Ketabdaneh.Library.Transaction.CheckThenInsert

/-!
This module relates two interleaved programs that look for one row, and write it if it is not there,
to the phases of such calls.
-/

namespace Transaction

open CheckThenInsert

variable {Store Write Event ε α : Type}

/-- Two calls that look for one row: when it is there, what they write, what their checks raise. -/
structure Contest (schema : Schema Store Write ε) where
  /-- What the stores of a run have in common. -/
  good : Store → Prop
  present : Store → Prop
  writes : Bool → Write → Prop
  taken : Bool → ε
  conflicts : ∀ {i a b}, writes i a → writes (!i) b → schema.conflicts a b = true
  apply_eq_ok : ∀ {i a s t}, good s → writes i a → schema.apply s a = .ok t →
    good t ∧ present t ∧ ¬present s
  apply_eq_error : ∀ {i a s e}, good s → writes i a → schema.apply s a = .error e → e ≠ taken i

def Program.Fails (e : ε) (p : Program Store Write Event ε α) : Prop :=
  ∃ e', p.settle = .throw e' ∧ e' ≠ e

def Program.Commits (p : Program Store Write Event ε α) : Prop :=
  ∃ next a, p.settle = .commit next ∧ next.settle = .pure a

namespace Contest

variable {schema : Schema Store Write ε} (c : Contest schema)

def Writes (i : Bool) (p : Program Store Write Event ε α) : Prop :=
  ∃ a next, p.settle = .write a next ∧ c.writes i a ∧ next.Commits

/-- The program has this many queries before its check, and writes if that does not find the row. -/
def Reads (i : Bool) : Nat → Program Store Write Event ε α → Prop
  | 0, p =>
    ∃ next, p.settle = .select next
      ∧ (∀ s, c.good s → c.present s → (next s).settle = .throw (c.taken i))
      ∧ ∀ s, c.good s → ¬c.present s → c.Writes i (next s) ∨ (next s).Fails (c.taken i)
  | left + 1, p =>
    ∃ next, p.settle = .select next
      ∧ ∀ s, c.good s → Reads i left (next s) ∨ (next s).Fails (c.taken i)

def In (i : Bool) (store : Store) (phase : Phase) (session : Session Store Write Event ε α)
    : Prop :=
  match phase with
  | .reading left => session.pending = [] ∧ c.Reads i left session.program
  | .checked => session.pending = [] ∧ c.Writes i session.program
  | .written =>
    ∃ a s, c.writes i a ∧ session.pending = [a] ∧ schema.apply store a = .ok s
      ∧ session.program.Commits
  | .succeeded => ∃ a, session.program.settle = .pure a
  | .taken => session.program.settle = .throw (c.taken i)
  | .failed => session.program.Fails (c.taken i)

structure Simulates (w : World Store Write Event ε α) (s : Phases) : Prop where
  good : c.good w.store
  present : c.present w.store ↔ s.present
  session : ∀ i, c.In i w.store (s.phase i) (w.sessions i)
  alone : ∀ i, s.phase i = .written → s.phase (!i) ≠ .written

end Contest

namespace CheckThenInsert

def Phases.move (s : Phases) (i : Bool) (phase : Phase) : Phases where
  present := s.present ∨ phase = .succeeded
  phase := Function.update s.phase i phase

@[simp]
theorem Phases.move_phase (s : Phases) (i : Bool) (phase : Phase)
    : (s.move i phase).phase i = phase := by
  apply Function.update_self

@[simp]
theorem Phases.move_phase_not (s : Phases) (i : Bool) (phase : Phase)
    : (s.move i phase).phase (!i) = s.phase (!i) := by
  apply Function.update_of_ne
  simp

theorem Step.of_move {s : Phases} {i : Bool} {phase : Phase}
    (h : Move s.present (s.phase !i) (s.phase i) phase) : Step s i (s.move i phase) where
  move := by rwa [Phases.move_phase]
  other := by rw [Phases.move_phase_not]
  present := by
    rw [Phases.move_phase]
    rfl

end CheckThenInsert

namespace Contest

variable {schema : Schema Store Write ε} {c : Contest schema}
variable {w w' : World Store Write Event ε α} {s : Phases} {i : Bool}

theorem In.of_ne_written {store store' : Store} {phase : Phase}
    {session : Session Store Write Event ε α} (h : c.In i store phase session)
    (hne : phase ≠ .written) : c.In i store' phase session := by
  cases phase with
  | written => exact absurd rfl hne
  | _ => exact h

theorem Simulates.set (h : c.Simulates w s) (phase : Phase)
    {session : Session Store Write Event ε α}
    (hmove : Move s.present (s.phase !i) (s.phase i) phase) (hne : phase ≠ .succeeded)
    (hin : c.In i w.store phase session)
    : ∃ t, Step s i t ∧ c.Simulates (w.set i session) t := by
  refine ⟨s.move i phase, Step.of_move hmove, h.good, ?_, ?_, ?_⟩
  . rw [World.set_store, h.present]
    simp [Phases.move, hne]
  . intro j
    rcases eq_or_eq_not i j with rfl | rfl
    . rw [World.set_sessions, Phases.move_phase]
      exact hin
    . rw [World.set_sessions_not, Phases.move_phase_not]
      apply h.session
  . intro j
    rcases eq_or_eq_not i j with rfl | rfl
    . rw [Phases.move_phase, Phases.move_phase_not]
      intro hwritten
      rw [hwritten] at hmove
      exact hmove.waits
    . rw [Bool.not_not, Phases.move_phase, Phases.move_phase_not]
      intro hother hwritten
      rw [hwritten] at hmove
      exact hmove.waits hother

/-- What the checks and the writes of programs lead to, when they do not fail. -/
theorem Simulates.step_reading (h : c.Simulates w s) {left : Nat}
    (hphase : s.phase i = .reading left) (hstep : schema.step w i = some w')
    : ∃ t, Step s i t ∧ c.Simulates w' t := by
  have hin := h.session i
  rw [hphase] at hin
  rcases hin with ⟨hpending, hreads⟩
  cases left with
  | zero =>
    rcases hreads with ⟨next, hsettle, hpresent, habsent⟩
    rw [Schema.step_select hsettle hpending, Option.some.injEq] at hstep
    rw [← hstep]
    by_cases hrow : c.present w.store
    . apply h.set .taken
      . rw [hphase]
        exact Move.find (h.present.mp hrow)
      . simp
      . exact hpresent _ h.good hrow
    . have hrow' := mt h.present.mpr hrow
      rcases habsent _ h.good hrow with hwrites | hfails
      . apply h.set .checked
        . rw [hphase]
          exact Move.check hrow'
        . simp
        . exact ⟨rfl, hwrites⟩
      . apply h.set .failed
        . rw [hphase]
          exact Move.checkFails hrow'
        . simp
        . exact hfails
  | succ left =>
    rcases hreads with ⟨next, hsettle, hnext⟩
    rw [Schema.step_select hsettle hpending, Option.some.injEq] at hstep
    rw [← hstep]
    rcases hnext _ h.good with hreads | hfails
    . apply h.set (.reading left)
      . rw [hphase]
        exact Move.read left
      . simp
      . exact ⟨rfl, hreads⟩
    . apply h.set .failed
      . rw [hphase]
        exact Move.readFails left
      . simp
      . exact hfails

/-- A write that does not wait finds no conflicting one of the other session. -/
theorem Simulates.ne_written (h : c.Simulates w s) {a : Write} (ha : c.writes i a)
    (hwaits : (w.sessions !i).held.any (schema.conflicts a) = false)
    : s.phase (!i) ≠ .written := by
  intro hother
  have hin := h.session !i
  rw [hother] at hin
  rcases hin with ⟨b, t, hb, hpending, _, next, fin, hsettle, _⟩
  simp only [Session.held, hsettle, hpending, List.any_cons, List.any_nil, Bool.or_false] at hwaits
  rw [c.conflicts ha hb] at hwaits
  injection hwaits

theorem Simulates.step_checked (h : c.Simulates w s) (hphase : s.phase i = .checked)
    (hstep : schema.step w i = some w') : ∃ t, Step s i t ∧ c.Simulates w' t := by
  have hin := h.session i
  rw [hphase] at hin
  rcases hin with ⟨hpending, a, next, hsettle, ha, hcommits⟩
  rcases Schema.step_write hsettle hpending hstep with ⟨hwaits, hw⟩
  split at hw
  . next t ht =>
    rw [hw]
    apply h.set .written
    . rw [hphase]
      apply Move.write
      . exact mt h.present.mpr (c.apply_eq_ok h.good ha ht).2.2
      . exact h.ne_written ha hwaits
    . simp
    . exact ⟨a, t, ha, rfl, ht, hcommits⟩
  . next e he =>
    rw [hw]
    apply h.set .failed
    . rw [hphase]
      exact Move.writeFails
    . simp
    . exact ⟨e, rfl, c.apply_eq_error h.good ha he⟩

theorem Simulates.step_written (h : c.Simulates w s) (hphase : s.phase i = .written)
    (hstep : schema.step w i = some w') : ∃ t, Step s i t ∧ c.Simulates w' t := by
  have hin := h.session i
  rw [hphase] at hin
  rcases hin with ⟨a, t, ha, hpending, ht, next, fin, hsettle, hfin⟩
  rw [Schema.step_commit hsettle hpending ht, Option.some.injEq] at hstep
  rw [← hstep]
  have hgood := c.apply_eq_ok h.good ha ht
  refine ⟨s.move i .succeeded, Step.of_move ?_, hgood.1, ?_, ?_, ?_⟩
  . rw [hphase]
    exact Move.commit
  . simpa [Phases.move] using hgood.2.1
  . intro j
    rcases eq_or_eq_not i j with rfl | rfl
    . rw [World.set_sessions, Phases.move_phase]
      exact ⟨fin, hfin⟩
    . rw [World.set_sessions_not, Phases.move_phase_not]
      exact (h.session !i).of_ne_written (h.alone i hphase)
  . intro j
    rcases eq_or_eq_not i j with rfl | rfl
    . simp
    . simp

theorem Simulates.outcome (h : c.Simulates w s) (i : Bool)
    : match s.phase i with
      | .succeeded => ∃ a, (w.sessions i).outcome = some (.ok a)
      | .taken => (w.sessions i).outcome = some (.error (c.taken i))
      | .failed => ∃ e, (w.sessions i).outcome = some (.error e) ∧ e ≠ c.taken i
      | _ => (w.sessions i).outcome = none := by
  have hin := h.session i
  unfold Session.outcome
  cases hphase : s.phase i with
  | reading left =>
    rw [hphase] at hin
    cases left with
    | zero =>
      rcases hin with ⟨_, next, hsettle, _⟩
      simp only [hsettle]
    | succ left =>
      rcases hin with ⟨_, next, hsettle, _⟩
      simp only [hsettle]
  | checked =>
    rw [hphase] at hin
    rcases hin with ⟨_, a, next, hsettle, _⟩
    simp only [hsettle]
  | written =>
    rw [hphase] at hin
    rcases hin with ⟨a, t, _, _, _, next, fin, hsettle, _⟩
    simp only [hsettle]
  | succeeded =>
    rw [hphase] at hin
    rcases hin with ⟨a, hsettle⟩
    simp [hsettle]
  | taken =>
    rw [hphase] at hin
    have hsettle : (w.sessions i).program.settle = .throw (c.taken i) := hin
    simp only [hsettle]
  | failed =>
    rw [hphase] at hin
    rcases hin with ⟨e, hsettle, hne⟩
    simpa [hsettle] using hne

theorem Simulates.succeeded_iff (h : c.Simulates w s)
    : (∃ a, (w.sessions i).outcome = some (.ok a)) ↔ s.phase i = .succeeded := by
  have houtcome := h.outcome i
  cases hphase : s.phase i with
  | succeeded =>
    rw [hphase] at houtcome
    simpa using houtcome
  | failed =>
    rw [hphase] at houtcome
    rcases houtcome with ⟨e, he, _⟩
    simp [he]
  | _ =>
    rw [hphase] at houtcome
    simp [show (w.sessions i).outcome = _ from houtcome]

theorem Simulates.taken_iff (h : c.Simulates w s)
    : (w.sessions i).outcome = some (.error (c.taken i)) ↔ s.phase i = .taken := by
  have houtcome := h.outcome i
  cases hphase : s.phase i with
  | succeeded =>
    rw [hphase] at houtcome
    rcases houtcome with ⟨a, ha⟩
    simp [ha]
  | failed =>
    rw [hphase] at houtcome
    rcases houtcome with ⟨e, he, hne⟩
    simpa [he] using hne
  | _ =>
    rw [hphase] at houtcome
    simp [show (w.sessions i).outcome = _ from houtcome]

theorem Simulates.step (h : c.Simulates w s) (hstep : schema.step w i = some w')
    : ∃ t, Step s i t ∧ c.Simulates w' t := by
  have houtcome := h.outcome i
  cases hphase : s.phase i with
  | reading left => exact h.step_reading hphase hstep
  | checked => exact h.step_checked hphase hstep
  | written => exact h.step_written hphase hstep
  | succeeded =>
    rw [hphase] at houtcome
    rcases houtcome with ⟨a, ha⟩
    rw [Schema.step_ended ha] at hstep
    injection hstep
  | taken =>
    rw [hphase] at houtcome
    rw [Schema.step_ended houtcome] at hstep
    injection hstep
  | failed =>
    rw [hphase] at houtcome
    rcases houtcome with ⟨e, he, _⟩
    rw [Schema.step_ended he] at hstep
    injection hstep

theorem Simulates.run (h : c.Simulates w s) {schedule : List Bool}
    (hrun : Transition.run schema.step w schedule = some w')
    : ∃ t, Steps s schedule t ∧ c.Simulates w' t := by
  induction schedule using List.reverseRecOn generalizing w' with
  | nil =>
    rw [Transition.run_nil, Option.some.injEq] at hrun
    rw [← hrun]
    exact ⟨s, Steps.nil, h⟩
  | append_singleton schedule i ih =>
    rw [Transition.run_concat, Option.bind_eq_some_iff] at hrun
    rcases hrun with ⟨w₁, hbefore, hstep⟩
    rcases ih hbefore with ⟨t, hsteps, ht⟩
    rcases ht.step hstep with ⟨u, hu, hsim⟩
    exact ⟨u, hsteps.concat hu, hsim⟩

variable {reads : Bool → Nat} {programs : Bool → Program Store Write Event ε α} {store : Store}

theorem simulates_start (hgood : c.good store)
    (hreads : ∀ i, c.Reads i (reads i) (programs i) ∨ (programs i).Fails (c.taken i))
    : ∃ s, (∀ i, s.phase i = .reading (reads i) ∨ s.phase i = .failed)
        ∧ c.Simulates (Schema.start store programs) s := by
  classical
  refine ⟨⟨c.present store, fun i =>
    if c.Reads i (reads i) (programs i) then .reading (reads i) else .failed⟩, ?_, hgood, Iff.rfl,
    ?_, ?_⟩
  . intro i
    dsimp only
    split
    . exact Or.inl rfl
    . exact Or.inr rfl
  . intro i
    dsimp only
    split
    . next h => exact ⟨rfl, h⟩
    . next h => exact (hreads i).resolve_left h
  . intro i hwritten
    dsimp only at hwritten
    split at hwritten
    . injection hwritten
    . injection hwritten

/--
Of two calls for one row, one succeeds and the check ends the other exactly if the one commits
before the other checks. The row is there then.
-/
theorem run_iff (hgood : c.good store)
    (hreads : ∀ i, c.Reads i (reads i) (programs i) ∨ (programs i).Fails (c.taken i))
    {schedule : List Bool}
    (hrun : Transition.run schema.step (Schema.start store programs) schedule = some w)
    (i : Bool)
    : ((∃ a, (w.sessions i).outcome = some (.ok a))
            ∧ (w.sessions !i).outcome = some (.error (c.taken !i))
          ↔
        CommitsFirst reads schedule i)
        ∧ (CommitsFirst reads schedule i → c.good w.store ∧ c.present w.store) := by
  rcases simulates_start hgood hreads with ⟨s, hs, hsim⟩
  rcases hsim.run hrun with ⟨t, hsteps, ht⟩
  have hreached := Reached.steps hs hsteps
  rw [ht.succeeded_iff, ht.taken_iff, ← hreached.succeeded_taken_iff, ht.present, hreached.present]
  refine ⟨Iff.rfl, ?_⟩
  rintro ⟨hsucceeded, _⟩
  exact ⟨ht.good, Or.inr ⟨i, hsucceeded⟩⟩

end Contest

end Transaction
