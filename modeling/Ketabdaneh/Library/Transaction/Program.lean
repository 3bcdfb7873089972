import Mathlib.Tactic.Common

/-!
This module contains programs that talk to a database in one transaction, and what comes of one that
runs with the database to itself.
-/

namespace Transaction

/--
A program by its next statement. A query sees the store; what it reads is a function of that. An
event is work outside the database.
-/
inductive Program (Store Write Event ε α : Type) where
  | pure (a : α)
  | throw (e : ε)
  | select (next : Store → Program Store Write Event ε α)
  | write (w : Write) (next : Program Store Write Event ε α)
  | commit (next : Program Store Write Event ε α)
  | emit (event : Event) (next : Program Store Write Event ε α)

namespace Program

variable {Store Write Event ε α β : Type}

def bind (p : Program Store Write Event ε α) (f : α → Program Store Write Event ε β)
    : Program Store Write Event ε β :=
  match p with
  | .pure a => f a
  | .throw e => .throw e
  | .select next => .select fun s => (next s).bind f
  | .write w next => .write w (next.bind f)
  | .commit next => .commit (next.bind f)
  | .emit event next => .emit event (next.bind f)

instance : Monad (Program Store Write Event ε) where
  pure := .pure
  bind := bind

def query (f : Store → α) : Program Store Write Event ε α :=
  .select fun s => .pure (f s)

def emits (events : List Event) : Program Store Write Event ε Unit :=
  events.foldr .emit (.pure ())

@[simp]
theorem pure_bind (a : α) (f : α → Program Store Write Event ε β) : (.pure a >>= f) = f a := rfl

@[simp]
theorem throw_bind (e : ε) (f : α → Program Store Write Event ε β)
    : (.throw e >>= f) = .throw e := rfl

@[simp]
theorem query_bind (g : Store → α) (f : α → Program Store Write Event ε β)
    : (query g >>= f) = .select fun s => f (g s) := rfl

@[simp]
theorem write_bind (w : Write) (next : Program Store Write Event ε α)
    (f : α → Program Store Write Event ε β)
    : (.write w next >>= f) = .write w (next >>= f) := rfl

@[simp]
theorem commit_bind (next : Program Store Write Event ε α) (f : α → Program Store Write Event ε β)
    : (.commit next >>= f) = .commit (next >>= f) := rfl

theorem foldr_emit_bind (events : List Event) (p : Program Store Write Event ε α)
    (f : α → Program Store Write Event ε β)
    : (events.foldr .emit p >>= f) = events.foldr .emit (p >>= f) := by
  induction events with
  | nil => rfl
  | cons event events ih =>
    rw [List.foldr_cons, List.foldr_cons, ← ih]
    rfl

end Program

structure Result (Store Event ε α : Type) where
  outcome : Except ε α
  store : Store
  events : List Event := []

variable {Store Write Event ε α : Type}

/-- Whether the store takes a write, under its constraints. -/
abbrev Apply (Store Write ε : Type) :=
  Store → Write → Except ε Store

variable (apply : Apply Store Write ε)

/-- What is written is there for others once it is committed; a program that throws takes it back. -/
def run (committed own : Store) : Program Store Write Event ε α → Result Store Event ε α
  | .pure a => { outcome := .ok a, store := committed }
  | .throw e => { outcome := .error e, store := committed }
  | .select next => run committed own (next own)
  | .write w next =>
    match apply own w with
    | .ok own => run committed own next
    | .error e => { outcome := .error e, store := committed }
  | .commit next => run own own next
  | .emit event next =>
    let result := run committed own next
    { result with events := event :: result.events }

def call (s : Store) (p : Program Store Write Event ε α) : Result Store Event ε α :=
  run apply s s p

theorem run_emits (committed own : Store) (events : List Event)
    (p : Program Store Write Event ε α)
    : run apply committed own (events.foldr .emit p)
        =
      { run apply committed own p with events := events ++ (run apply committed own p).events } := by
  induction events with
  | nil => rfl
  | cons event events ih => rw [List.foldr_cons, run, ih, List.cons_append]

/-- Nothing can be thrown after the commit. -/
def Program.CommitsLast : Program Store Write Event ε α → Prop
  | .pure _ => True
  | .throw _ => True
  | .select next => ∀ s, (next s).CommitsLast
  | .write _ next => next.CommitsLast
  | .commit next => ∃ a, next = .pure a
  | .emit _ next => next.CommitsLast

theorem Program.commitsLast_emits {p : Program Store Write Event ε α} (h : p.CommitsLast)
    (events : List Event) : (events.foldr .emit p).CommitsLast := by
  induction events with
  | nil => exact h
  | cons event events ih => exact ih

/-- A program that throws has changed nothing. -/
theorem store_of_error {committed own : Store} {p : Program Store Write Event ε α}
    (h : p.CommitsLast) {e : ε} (he : (run apply committed own p).outcome = .error e)
    : (run apply committed own p).store = committed := by
  induction p generalizing own with
  | pure a => rfl
  | throw e => rfl
  | select next ih => exact ih own (h own) he
  | write write next ih =>
    rw [run] at he ⊢
    split at he
    . exact ih h he
    . rfl
  | commit next ih =>
    rcases h with ⟨a, rfl⟩
    injection he
  | emit event next ih => exact ih h he

end Transaction
