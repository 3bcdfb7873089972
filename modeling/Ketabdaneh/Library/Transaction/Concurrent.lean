import Ketabdaneh.Library.Transaction.Interleaving
import Mathlib.Data.Fintype.Basic

/-!
This module contains any number of programs that run against one store, their statements in any order
and among changes that others make to the store, and the same calls one after the other.
-/

namespace Transaction

variable {ι Change Store Write Event ε α : Type}

structure System (ι Store Write Event ε α : Type) where
  store : Store
  sessions : ι → Session Store Write Event ε α

/-- The calls before their first statements. -/
def System.start (s : Store) (programs : ι → Program Store Write Event ε α)
    : System ι Store Write Event ε α where
  store := s
  sessions i := { program := programs i }

/-- A session takes its next statement, or somebody else's change is committed. -/
inductive Action (ι Change : Type) where
  | statement (i : ι)
  | change (c : Change)

def Action.session? : Action ι Change → Option ι
  | .statement i => some i
  | .change _ => none

def Action.change? : Action ι Change → Option Change
  | .statement _ => none
  | .change c => some c

namespace Schema

variable (schema : Schema Store Write ε)

/-- The next statement of a session that does not have to wait: a commit changes the store. -/
def advance (store : Store) (session : Session Store Write Event ε α)
    : Option (Store × Session Store Write Event ε α) :=
  match session.program.settle with
  | .select next =>
    match schema.view store session.pending with
    | .ok s => some (store, { session with program := next s })
    | .error e => some (store, { program := .throw e })
  | .write write next =>
    match schema.view store (session.pending ++ [write]) with
    | .ok _ => some (store, { program := next, pending := session.pending ++ [write] })
    | .error e => some (store, { program := .throw e })
  | .commit next =>
    match schema.view store session.pending with
    | .ok s => some (s, { program := next })
    | .error e => some (store, { program := .throw e })
  | _ => none

variable [Fintype ι] [DecidableEq ι] (change : Store → Change → Store)

/-- The session is about to write what conflicts with an uncommitted write of another one. -/
def waits (w : System ι Store Write Event ε α) (i : ι) : Bool :=
  match (w.sessions i).program.settle with
  | .write write _ => decide (∃ j, j ≠ i ∧ (w.sessions j).held.any (schema.conflicts write) = true)
  | _ => false

def act (w : System ι Store Write Event ε α) : Action ι Change → Option (System ι Store Write Event ε α)
  | .statement i =>
    if schema.waits w i then
      none
    else
      (schema.advance w.store (w.sessions i)).map fun (s, session) =>
        { store := s, sessions := Function.update w.sessions i session }
  | .change c => some { w with store := change w.store c }

omit [Fintype ι] [DecidableEq ι]

variable (programs : ι → Program Store Write Event ε α)

/-- A whole call, or a change, with nothing beside it. -/
def perform (s : Store) : Action ι Change → Store
  | .statement i => (call schema.apply s (programs i)).store
  | .change c => change s c

def performAll (s : Store) (actions : List (Action ι Change)) : Store :=
  actions.foldl (schema.perform change programs) s

end Schema

namespace Schema

variable {schema : Schema Store Write ε} [Fintype ι] [DecidableEq ι] {change : Store → Change → Store}
variable {w w' : System ι Store Write Event ε α} {i : ι}

theorem act_statement (h : schema.act change w (.statement i) = some w')
    : ∃ s session, schema.advance w.store (w.sessions i) = some (s, session)
        ∧ w'.store = s ∧ w'.sessions = Function.update w.sessions i session := by
  rw [act] at h
  split at h
  . contradiction
  . rw [Option.map_eq_some_iff] at h
    rcases h with ⟨⟨s, session⟩, hadvance, hw⟩
    rw [← hw]
    exact ⟨s, session, hadvance, rfl, rfl⟩

omit [Fintype ι] [DecidableEq ι] in
theorem advance_ended {session : Session Store Write Event ε α} {s : Store}
    (h : session.outcome ≠ none) : schema.advance s session = none := by
  unfold Session.outcome at h
  unfold advance
  split at h
  . next hsettle => simp only [hsettle]
  . next hsettle => simp only [hsettle]
  . contradiction

/-- A session that has taken no statement is at its start. -/
theorem sessions_of_run {programs : ι → Program Store Write Event ε α} {s : Store}
    {schedule : List (Action ι Change)}
    (hrun : Transition.run (schema.act change) (System.start s programs) schedule = some w)
    (hnot : .statement i ∉ schedule) : w.sessions i = { program := programs i } := by
  induction schedule using List.reverseRecOn generalizing w with
  | nil =>
    rw [Transition.run_nil, Option.some.injEq] at hrun
    rw [← hrun]
    rfl
  | append_singleton schedule action ih =>
    rw [Transition.run_concat, Option.bind_eq_some_iff] at hrun
    rcases hrun with ⟨w₀, hrun, hact⟩
    rw [List.mem_append, not_or, List.mem_singleton] at hnot
    rw [← ih hrun hnot.1]
    cases action with
    | change c =>
      rw [act, Option.some.injEq] at hact
      rw [← hact]
    | statement j =>
      rcases act_statement hact with ⟨_, _, _, _, hsessions⟩
      rw [hsessions, Function.update_of_ne]
      intro heq
      exact hnot.2 (congrArg Action.statement heq)

end Schema

end Transaction
