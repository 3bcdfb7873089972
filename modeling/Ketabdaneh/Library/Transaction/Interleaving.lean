import Ketabdaneh.Library.Transaction.Program
import Ketabdaneh.Library.Transition
import Mathlib.Logic.Function.Basic

/-!
This module contains two programs that run against one store, their statements in any order. A
statement sees what is committed and what its own transaction wrote; a write that conflicts with one
of the other transaction waits for the end of that.
-/

namespace Transaction

/-- Which writes a store takes, and which pairs of writes it does not take from two transactions. -/
structure Schema (Store Write ε : Type) where
  apply : Apply Store Write ε
  conflicts : Write → Write → Bool

variable {Store Write Event ε α : Type}

/-- The program without the work it does before its next statement. -/
def Program.settle : Program Store Write Event ε α → Program Store Write Event ε α
  | .emit _ next => next.settle
  | p => p

theorem Program.settle_emits (events : List Event) (p : Program Store Write Event ε α)
    : (events.foldr .emit p).settle = p.settle := by
  induction events with
  | nil => rfl
  | cons event events ih => rw [List.foldr_cons, settle, ih]

structure Session (Store Write Event ε α : Type) where
  program : Program Store Write Event ε α
  /-- What it wrote and has not committed. -/
  pending : List Write := []

/-- What other transactions wait for; a session that ended has rolled back. -/
def Session.held (session : Session Store Write Event ε α) : List Write :=
  match session.program.settle with
  | .pure _ => []
  | .throw _ => []
  | _ => session.pending

def Session.outcome (session : Session Store Write Event ε α) : Option (Except ε α) :=
  match session.program.settle with
  | .pure a => some (.ok a)
  | .throw e => some (.error e)
  | _ => none

structure World (Store Write Event ε α : Type) where
  store : Store
  sessions : Bool → Session Store Write Event ε α

namespace World

def set (w : World Store Write Event ε α) (i : Bool) (session : Session Store Write Event ε α)
    : World Store Write Event ε α :=
  { w with sessions := Function.update w.sessions i session }

variable {w : World Store Write Event ε α} {i : Bool} {session : Session Store Write Event ε α}

@[simp]
theorem set_store : (w.set i session).store = w.store := rfl

@[simp]
theorem set_sessions : (w.set i session).sessions i = session := by
  apply Function.update_self

@[simp]
theorem set_sessions_not : (w.set i session).sessions (!i) = w.sessions (!i) := by
  apply Function.update_of_ne
  simp

end World

namespace Schema

variable (schema : Schema Store Write ε)

/-- The store as a transaction sees it. -/
def view (store : Store) (pending : List Write) : Except ε Store :=
  pending.foldlM schema.apply store

/-- The next statement of session `i`, if it has one that does not wait. -/
def step (w : World Store Write Event ε α) (i : Bool) : Option (World Store Write Event ε α) :=
  let session := w.sessions i
  match session.program.settle with
  | .select next =>
    match schema.view w.store session.pending with
    | .ok s => some (w.set i { session with program := next s })
    | .error e => some (w.set i { program := .throw e })
  | .write write next =>
    if (w.sessions !i).held.any (schema.conflicts write) then
      none
    else
      match schema.view w.store (session.pending ++ [write]) with
      | .ok _ => some (w.set i { program := next, pending := session.pending ++ [write] })
      | .error e => some (w.set i { program := .throw e })
  | .commit next =>
    match schema.view w.store session.pending with
    | .ok s => some ({ w with store := s }.set i { program := next })
    | .error e => some (w.set i { program := .throw e })
  | _ => none

variable {schema} {w w' : World Store Write Event ε α} {i : Bool}

theorem step_select {next : Store → Program Store Write Event ε α}
    (h : (w.sessions i).program.settle = .select next) (hpending : (w.sessions i).pending = [])
    : schema.step w i = some (w.set i { program := next w.store }) := by
  simp only [step, h, hpending]
  rfl

theorem step_write {write : Write} {next : Program Store Write Event ε α}
    (h : (w.sessions i).program.settle = .write write next)
    (hpending : (w.sessions i).pending = []) (hstep : schema.step w i = some w')
    : (w.sessions !i).held.any (schema.conflicts write) = false
        ∧ match schema.apply w.store write with
          | .ok _ => w' = w.set i { program := next, pending := [write] }
          | .error e => w' = w.set i { program := .throw e } := by
  simp only [step, h, hpending, List.nil_append, view, List.foldlM_cons, List.foldlM_nil,
    bind_pure] at hstep
  split at hstep
  . injection hstep
  . next hwaits =>
    rw [Bool.not_eq_true] at hwaits
    refine ⟨hwaits, ?_⟩
    split at hstep
    . exact (Option.some.inj hstep).symm
    . exact (Option.some.inj hstep).symm

theorem step_commit {write : Write} {next : Program Store Write Event ε α} {s : Store}
    (h : (w.sessions i).program.settle = .commit next)
    (hpending : (w.sessions i).pending = [write]) (hs : schema.apply w.store write = .ok s)
    : schema.step w i = some ({ w with store := s }.set i { program := next }) := by
  simp only [step, h, hpending, view, List.foldlM_cons, List.foldlM_nil, bind_pure, hs]

theorem step_ended {outcome : Except ε α} (h : (w.sessions i).outcome = some outcome)
    : schema.step w i = none := by
  unfold Session.outcome at h
  unfold step
  split at h
  . next hsettle => simp only [hsettle]
  . next hsettle => simp only [hsettle]
  . injection h

/-- Two calls, each in a transaction of its own, before the first statement. -/
def start (s : Store) (programs : Bool → Program Store Write Event ε α)
    : World Store Write Event ε α where
  store := s
  sessions i := { program := programs i }

end Schema

end Transaction
