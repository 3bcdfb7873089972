import Ketabdaneh.Library.Transaction.Outline
import Mathlib.Data.List.Forall2

/-!
This module contains programs that do not let out what they keep to themselves: stores, writes and
values come in pairs that are alike but for that, and so does all that can be seen of the programs.
-/

namespace Transaction

variable {ι Change Store Write Event ε α β : Type}

/-- What is alike, and which events cannot be seen. -/
structure Likeness (Store Write Event : Type) where
  store : Store → Store → Prop
  write : Write → Write → Prop
  hidden : Event → Bool

/-- What is alike for a program whose events are seen as others. -/
def Likeness.comap {Event' : Type} (seen : Event → Event') (like : Likeness Store Write Event')
    : Likeness Store Write Event where
  store := like.store
  write := like.write
  hidden event := like.hidden (seen event)

variable (like : Likeness Store Write Event)

/-- The programs take the same statements, whatever of the store they are not to let out. -/
inductive Program.Alike (value : α → α → Prop)
    : Program Store Write Event ε α → Program Store Write Event ε α → Prop where
  | pure {a a' : α} (h : value a a') : Alike value (.pure a) (.pure a')
  | throw (e : ε) : Alike value (.throw e) (.throw e)
  | select {next next' : Store → Program Store Write Event ε α}
      (h : ∀ s s', like.store s s' → Alike value (next s) (next' s'))
    : Alike value (.select next) (.select next')
  | write {w w' : Write} {next next' : Program Store Write Event ε α} (hw : like.write w w')
      (h : Alike value next next') : Alike value (.write w next) (.write w' next')
  | commit {next next' : Program Store Write Event ε α} (h : Alike value next next')
    : Alike value (.commit next) (.commit next')
  | emit (event : Event) {next next' : Program Store Write Event ε α} (h : Alike value next next')
    : Alike value (.emit event next) (.emit event next')
  | left {event : Event} (hidden : like.hidden event = true)
      {next next' : Program Store Write Event ε α} (h : Alike value next next')
    : Alike value (.emit event next) next'
  | right {event : Event} (hidden : like.hidden event = true)
      {next next' : Program Store Write Event ε α} (h : Alike value next next')
    : Alike value next (.emit event next')

/-- Both are at the same statement. -/
inductive Program.Matched (value : α → α → Prop)
    : Program Store Write Event ε α → Program Store Write Event ε α → Prop where
  | pure {a a' : α} (h : value a a') : Matched value (.pure a) (.pure a')
  | throw (e : ε) : Matched value (.throw e) (.throw e)
  | select {next next' : Store → Program Store Write Event ε α}
      (h : ∀ s s', like.store s s' → (next s).Alike like value (next' s'))
    : Matched value (.select next) (.select next')
  | write {w w' : Write} {next next' : Program Store Write Event ε α} (hw : like.write w w')
      (h : next.Alike like value next') : Matched value (.write w next) (.write w' next')
  | commit {next next' : Program Store Write Event ε α} (h : next.Alike like value next')
    : Matched value (.commit next) (.commit next')

/-- What is seen of a program before its next statement. -/
def Program.seen : Program Store Write Event ε α → List Event
  | .emit event next => if like.hidden event then next.seen else event :: next.seen
  | _ => []

namespace Program

variable {like} {value : α → α → Prop} {p p' : Program Store Write Event ε α}

theorem Alike.bind {value' : β → β → Prop} (h : p.Alike like value p')
    {f f' : α → Program Store Write Event ε β}
    (hf : ∀ a a', value a a' → (f a).Alike like value' (f' a'))
    : (p >>= f).Alike like value' (p' >>= f') := by
  induction h with
  | pure h => exact hf _ _ h
  | throw e => exact .throw e
  | select h ih => exact .select ih
  | write hw h ih => exact .write hw ih
  | commit h ih => exact .commit ih
  | emit event h ih => exact .emit event ih
  | left hidden h ih => exact .left hidden ih
  | right hidden h ih => exact .right hidden ih

theorem Alike.query_bind {read read' : Store → α} {value' : β → β → Prop}
    {f f' : α → Program Store Write Event ε β}
    (h : ∀ s s', like.store s s' → (f (read s)).Alike like value' (f' (read' s')))
    : (query read >>= f).Alike like value' (query read' >>= f') :=
  .select h

theorem Alike.settle (h : p.Alike like value p')
    : p.seen like = p'.seen like ∧ p.settle.Matched like value p'.settle := by
  induction h with
  | pure h => exact ⟨rfl, .pure h⟩
  | throw e => exact ⟨rfl, .throw e⟩
  | select h ih => exact ⟨rfl, .select h⟩
  | write hw h ih => exact ⟨rfl, .write hw h⟩
  | commit h ih => exact ⟨rfl, .commit h⟩
  | emit event h ih =>
    refine ⟨?_, ih.2⟩
    unfold seen
    rw [ih.1]
  | left hidden h ih =>
    refine ⟨?_, ih.2⟩
    rw [seen, if_pos hidden, ih.1]
  | right hidden h ih =>
    refine ⟨?_, ih.2⟩
    rw [seen, if_pos hidden, ih.1]

theorem Alike.handle {Event' ε' : Type} {like : Likeness Store Write Event'} {seen : Event → Event'}
    {value' : β → β → Prop} {returned returned' : α → Program Store Write Event' ε' β}
    {thrown thrown' : ε → Program Store Write Event' ε' β}
    (h : p.Alike (like.comap seen) value p')
    (hreturned : ∀ a a', value a a' → (returned a).Alike like value' (returned' a'))
    (hthrown : ∀ e, (thrown e).Alike like value' (thrown' e))
    : (p.handle seen returned thrown).Alike like value' (p'.handle seen returned' thrown') := by
  induction h with
  | pure h => exact hreturned _ _ h
  | throw e => exact hthrown e
  | select h ih => exact .select ih
  | write hw h ih => exact .write hw ih
  | commit h ih => exact .commit ih
  | emit event h ih => exact .emit (seen event) ih
  | left hidden h ih => exact Alike.left (show like.hidden _ = true from hidden) ih
  | right hidden h ih => exact Alike.right (show like.hidden _ = true from hidden) ih

end Program

/-- A result that is there for both, or the same error. -/
inductive Except.Alike (rel : α → α → Prop) : Except ε α → Except ε α → Prop where
  | ok {a a' : α} (h : rel a a') : Except.Alike rel (.ok a) (.ok a')
  | error (e : ε) : Except.Alike rel (.error e) (.error e)

/-- The store takes what is alike alike. -/
structure Schema.Respects (schema : Schema Store Write ε) (change : Store → Change → Store) : Prop where
  apply : ∀ {s s' w w'}, like.store s s' → like.write w w' →
    Except.Alike like.store (schema.apply s w) (schema.apply s' w')
  conflicts : ∀ {v v' w w'}, like.write v v' → like.write w w' →
    schema.conflicts v w = schema.conflicts v' w'
  change : ∀ {s s'} c, like.store s s' → like.store (change s c) (change s' c)

structure Session.Alike (value : α → α → Prop) (session session' : Session Store Write Event ε α)
    : Prop where
  program : session.program.Alike like value session'.program
  pending : List.Forall₂ like.write session.pending session'.pending

structure System.Alike (value : α → α → Prop) (w w' : System ι Store Write Event ε α) : Prop where
  store : like.store w.store w'.store
  sessions : ∀ i, (w.sessions i).Alike like value (w'.sessions i)

variable {like} {schema : Schema Store Write ε} {change : Store → Change → Store}
variable {value : α → α → Prop} {s s' : Store}

theorem Schema.Respects.view (h : schema.Respects like change) {pending pending' : List Write}
    (hpending : List.Forall₂ like.write pending pending') (hs : like.store s s')
    : Except.Alike like.store (schema.view s pending) (schema.view s' pending') := by
  induction hpending generalizing s s' with
  | nil => exact .ok hs
  | cons hw hpending ih =>
    unfold Schema.view
    rw [List.foldlM_cons, List.foldlM_cons]
    have happly := h.apply hs hw
    generalize schema.apply s _ = result at happly
    generalize schema.apply s' _ = result' at happly
    cases happly with
    | ok ht => exact ih ht
    | error e => exact .error e

theorem Schema.Respects.any_conflicts (h : schema.Respects like change) {held held' : List Write}
    (hheld : List.Forall₂ like.write held held') {w w' : Write} (hw : like.write w w')
    : held.any (schema.conflicts w) = held'.any (schema.conflicts w') := by
  induction hheld with
  | nil => rfl
  | cons hv hheld ih => rw [List.any_cons, List.any_cons, h.conflicts hw hv, ih]

theorem Session.Alike.held {session session' : Session Store Write Event ε α}
    (h : session.Alike like value session') : List.Forall₂ like.write session.held session'.held := by
  have hsettle := h.program.settle.2
  unfold Session.held
  generalize session.program.settle = p at hsettle
  generalize session'.program.settle = p' at hsettle
  cases hsettle with
  | pure hvalue => exact .nil
  | throw e => exact .nil
  | select hnext => exact h.pending
  | write hw hnext => exact h.pending
  | commit hnext => exact h.pending

/-- The outcome is there for both, or for neither. -/
theorem Session.Alike.outcome {session session' : Session Store Write Event ε α}
    (h : session.Alike like value session')
    : session.outcome = none ∧ session'.outcome = none
        ∨ ∃ result result', session.outcome = some result ∧ session'.outcome = some result'
          ∧ Except.Alike value result result' := by
  have hsettle := h.program.settle.2
  unfold Session.outcome
  generalize session.program.settle = p at hsettle
  generalize session'.program.settle = p' at hsettle
  cases hsettle with
  | pure hvalue => exact Or.inr ⟨_, _, rfl, rfl, .ok hvalue⟩
  | throw e => exact Or.inr ⟨_, _, rfl, rfl, .error e⟩
  | select hnext => exact Or.inl ⟨rfl, rfl⟩
  | write hw hnext => exact Or.inl ⟨rfl, rfl⟩
  | commit hnext => exact Or.inl ⟨rfl, rfl⟩

/-- A statement is taken in both, or in neither. -/
theorem Schema.Respects.advance (hschema : schema.Respects like change) (hs : like.store s s')
    {session session' : Session Store Write Event ε α} (h : session.Alike like value session')
    : schema.advance s session = none ∧ schema.advance s' session' = none
        ∨ ∃ t t' next next', schema.advance s session = some (t, next)
          ∧ schema.advance s' session' = some (t', next') ∧ like.store t t'
          ∧ next.Alike like value next' := by
  have hsettle := h.program.settle.2
  unfold Schema.advance
  generalize session.program.settle = p at hsettle
  generalize session'.program.settle = p' at hsettle
  cases hsettle with
  | pure hvalue => exact Or.inl ⟨rfl, rfl⟩
  | throw e => exact Or.inl ⟨rfl, rfl⟩
  | select hnext =>
    right
    dsimp only
    have hview := hschema.view h.pending hs
    generalize schema.view s session.pending = result at hview
    generalize schema.view s' session'.pending = result' at hview
    cases hview with
    | ok ht => exact ⟨_, _, _, _, rfl, rfl, hs, ⟨hnext _ _ ht, h.pending⟩⟩
    | error e => exact ⟨_, _, _, _, rfl, rfl, hs, ⟨.throw e, .nil⟩⟩
  | write hw hnext =>
    right
    dsimp only
    have hpending := List.rel_append h.pending (.cons hw .nil)
    have hview := hschema.view hpending hs
    generalize schema.view s (session.pending ++ [_]) = result at hview
    generalize schema.view s' (session'.pending ++ [_]) = result' at hview
    cases hview with
    | ok ht => exact ⟨_, _, _, _, rfl, rfl, hs, ⟨hnext, hpending⟩⟩
    | error e => exact ⟨_, _, _, _, rfl, rfl, hs, ⟨.throw e, .nil⟩⟩
  | commit hnext =>
    right
    dsimp only
    have hview := hschema.view h.pending hs
    generalize schema.view s session.pending = result at hview
    generalize schema.view s' session'.pending = result' at hview
    cases hview with
    | ok ht => exact ⟨_, _, _, _, rfl, rfl, ht, ⟨hnext, .nil⟩⟩
    | error e => exact ⟨_, _, _, _, rfl, rfl, hs, ⟨.throw e, .nil⟩⟩

section

variable [Fintype ι] [DecidableEq ι] {w w' : System ι Store Write Event ε α}

/-- What has been seen of session `i` when the schedule has run, or has come to a stop. -/
def System.transcript (like : Likeness Store Write Event) (schema : Schema Store Write ε)
    (change : Store → Change → Store) (i : ι) (w : System ι Store Write Event ε α)
    : List (Action ι Change) → List Event
  | [] => (w.sessions i).program.seen like
  | action :: schedule =>
    match schema.act change w action with
    | some next =>
      (if action.session? = some i then (w.sessions i).program.seen like else [])
        ++ transcript like schema change i next schedule
    | none => (w.sessions i).program.seen like

theorem Schema.Respects.waits (hschema : schema.Respects like change) (h : w.Alike like value w')
    (i : ι) : schema.waits w i = schema.waits w' i := by
  have hsettle := (h.sessions i).program.settle.2
  unfold Schema.waits
  generalize (w.sessions i).program.settle = p at hsettle
  generalize (w'.sessions i).program.settle = p' at hsettle
  cases hsettle with
  | write hw hnext =>
    dsimp only
    rw [decide_eq_decide]
    apply exists_congr
    intro j
    rw [hschema.any_conflicts (h.sessions j).held hw]
  | _ => rfl

theorem Schema.Respects.act (hschema : schema.Respects like change) (h : w.Alike like value w')
    (action : Action ι Change)
    : schema.act change w action = none ∧ schema.act change w' action = none
        ∨ ∃ t t', schema.act change w action = some t ∧ schema.act change w' action = some t'
          ∧ t.Alike like value t' := by
  cases action with
  | change c => exact Or.inr ⟨_, _, rfl, rfl, hschema.change c h.store, h.sessions⟩
  | statement i =>
    rw [Schema.act, Schema.act, hschema.waits h i]
    split
    . exact Or.inl ⟨rfl, rfl⟩
    . rcases hschema.advance h.store (h.sessions i) with hnone | ⟨t, t', next, next', ht, ht', hs, hnext⟩
      . rw [hnone.1, hnone.2]
        exact Or.inl ⟨rfl, rfl⟩
      . rw [ht, ht']
        refine Or.inr ⟨_, _, rfl, rfl, hs, ?_⟩
        intro j
        dsimp only
        by_cases hj : j = i
        . rw [hj, Function.update_self, Function.update_self]
          exact hnext
        . rw [Function.update_of_ne hj, Function.update_of_ne hj]
          exact h.sessions j

/-- Runs of what is alike look the same, and what they come to is alike. -/
theorem Schema.Respects.run (hschema : schema.Respects like change) (h : w.Alike like value w')
    (schedule : List (Action ι Change))
    : (∀ i, w.transcript like schema change i schedule = w'.transcript like schema change i schedule)
        ∧ (Transition.run (schema.act change) w schedule = none
            ∧ Transition.run (schema.act change) w' schedule = none
          ∨ ∃ t t', Transition.run (schema.act change) w schedule = some t
            ∧ Transition.run (schema.act change) w' schedule = some t' ∧ t.Alike like value t') := by
  induction schedule generalizing w w' with
  | nil =>
    refine ⟨?_, Or.inr ⟨w, w', rfl, rfl, h⟩⟩
    intro i
    exact (h.sessions i).program.settle.1
  | cons action schedule ih =>
    rcases hschema.act h action with hnone | ⟨t, t', ht, ht', hnext⟩
    . refine ⟨?_, Or.inl ?_⟩
      . intro i
        rw [System.transcript, System.transcript, hnone.1, hnone.2]
        exact (h.sessions i).program.settle.1
      . rw [Transition.run_cons, Transition.run_cons, hnone.1, hnone.2]
        exact ⟨rfl, rfl⟩
    . rcases ih hnext with ⟨hseen, hrest⟩
      refine ⟨?_, ?_⟩
      . intro i
        rw [System.transcript, System.transcript, ht, ht']
        dsimp only
        rw [hseen i, (h.sessions i).program.settle.1]
      . rw [Transition.run_cons, Transition.run_cons, ht, ht']
        exact hrest

end

end Transaction
