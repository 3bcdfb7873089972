import Ketabdaneh.Api.Session

/-!
This module contains what an insert adds to each table, and the rules for what a service that fails
has written.
-/

namespace Api

structure Database.Adds (db db' : Database) (row : NewRow) : Prop where
  roles : db'.roles = db.roles
  responsibilities : db'.responsibilities = db.responsibilities
  persons : db'.persons.rows = db.persons.rows ++ row.persons
  personRoles : db'.personRoles.rows = db.personRoles.rows ++ row.personRoles
  events : db'.events.rows = db.events.rows ++ row.events
  eventAssignments : db'.eventAssignments.rows = db.eventAssignments.rows ++ row.eventAssignments

namespace NewRow

open Database

variable {db db' : Database}

theorem adds_person {row : Person} {links : List PersonRole}
    (h : db.insertPerson row links = some db') : Adds db db' (.person row links) := by
  unfold insertPerson at h
  split at h
  . next persons personRoles hpersons hlinks =>
    split at h
    . rw [Option.some.injEq] at h
      rw [← h]
      constructor
      . rfl
      . rfl
      . apply Table.insert?_eq_some.mp hpersons
      . apply Table.insertAll?_eq_some.mp hlinks
      . simp [events]
      . simp [eventAssignments]
    . injection h
  . injection h

theorem adds_event {row : Event} (h : db.insertEvent row = some db')
    : Adds db db' (.event row) := by
  unfold insertEvent at h
  split at h
  . next events hevents =>
    rw [Option.some.injEq] at h
    rw [← h]
    constructor
    . rfl
    . rfl
    . simp [persons]
    . simp [personRoles]
    . apply Table.insert?_eq_some.mp hevents
    . simp [eventAssignments]
  . injection h

theorem adds_eventAssignment {row : EventAssignment} (h : db.insertEventAssignment row = some db')
    : Adds db db' (.eventAssignment row) := by
  unfold insertEventAssignment at h
  split at h
  . next rows hrows =>
    split at h
    . rw [Option.some.injEq] at h
      rw [← h]
      constructor
      . rfl
      . rfl
      . simp [persons]
      . simp [personRoles]
      . simp [events]
      . apply Table.insert?_eq_some.mp hrows
    . injection h
  . injection h

theorem insert_adds {row : NewRow} (h : row.insert db = some db') : Adds db db' row := by
  cases row with
  | person row links => exact adds_person h
  | event row => exact adds_event h
  | eventAssignment row => exact adds_eventAssignment h

end NewRow

namespace Database

theorem Adds.grows {db db' : Database} {row : NewRow} (h : Adds db db' row) : Grows db db' := by
  constructor
  . exact h.roles
  . exact h.responsibilities
  . rw [h.persons]
    apply List.prefix_append
  . rw [h.personRoles]
    apply List.prefix_append
  . rw [h.events]
    apply List.prefix_append
  . rw [h.eventAssignments]
    apply List.prefix_append

theorem Grows.refl (db : Database) : Grows db db := by
  constructor
  . rfl
  . rfl
  all_goals apply List.prefix_rfl

theorem Grows.trans {a b c : Database} (hab : Grows a b) (hbc : Grows b c) : Grows a c := by
  constructor
  . rw [hbc.roles, hab.roles]
  . rw [hbc.responsibilities, hab.responsibilities]
  . exact hab.persons.trans hbc.persons
  . exact hab.personRoles.trans hbc.personRoles
  . exact hab.events.trans hbc.events
  . exact hab.eventAssignments.trans hbc.eventAssignments

end Database

namespace Service

variable {α β : Type}

def KeepsDatabase (service : Service α) : Prop :=
  ∀ s, match service s with
    | .ok _ t => t.db = s.db
    | .error _ t => t.db = s.db

/-- A service that fails has written nothing. -/
def Atomic (service : Service α) : Prop :=
  ∀ s e t, service s = .error e t → t.db = s.db

def Infallible (service : Service α) : Prop :=
  ∀ s e t, service s ≠ .error e t

theorem keepsDatabase_pure (a : α) : KeepsDatabase (pure a : Service α) := by
  intro s
  rfl

theorem keepsDatabase_throw (e : CreateError) : KeepsDatabase (throw e : Service α) := by
  intro s
  rfl

theorem keepsDatabase_add (row : NewRow) : KeepsDatabase (add row) := by
  intro s
  rfl

theorem keepsDatabase_query (texts : List Str) (select : Database → α)
    : KeepsDatabase (query texts select) := by
  intro s
  rw [query_eq]
  split
  . next h =>
    split at h
    . injection h with _ h
      rw [h]
    . injection h
  . next h =>
    split at h
    . injection h
    . injection h with _ h
      rw [h]

theorem keepsDatabase_bind {x : Service α} {f : α → Service β} (hx : KeepsDatabase x)
    (hf : ∀ a, KeepsDatabase (f a)) : KeepsDatabase (x >>= f) := by
  intro s
  have hs := hx s
  simp only [bind, EStateM.bind]
  cases hxs : x s with
  | ok a t =>
    rw [hxs] at hs
    have ht := hf a t
    simp only
    rwa [hs] at ht
  | error e t =>
    rw [hxs] at hs
    assumption

theorem atomic_bind {x : Service α} {f : α → Service β} (hx : KeepsDatabase x)
    (hf : ∀ a, Atomic (f a)) : Atomic (x >>= f) := by
  intro s e t h
  have hs := hx s
  rw [EStateM.bind_eq_error] at h
  rcases h with h | ⟨a, u, hxs, hfu⟩
  . rwa [h] at hs
  . rw [hxs] at hs
    rw [hf a u e t hfu, hs]

theorem atomic_commit_bind {commits : Bool} {f : Unit → Service β} (hf : Infallible (f ()))
    : Atomic (commit commits >>= f) := by
  intro s e t h
  rw [EStateM.bind_eq_error] at h
  rcases h with h | ⟨a, u, _, hfu⟩
  . apply commit_eq_error
    assumption
  . exact absurd hfu (hf u e t)

theorem atomic_bind_pure {x : Service α} {b : β} (hx : Atomic x)
    : Atomic (x >>= fun _ => pure b) := by
  intro s e t h
  rw [EStateM.bind_eq_error] at h
  rcases h with h | ⟨a, u, _, h⟩
  . exact hx s e t h
  . exact absurd h EStateM.pure_ne_error

theorem bind_pure_eq_ok {x : Service α} {b c : β} {s t : Session}
    (h : (x >>= fun _ => pure b) s = .ok c t) : ∃ a, x s = .ok a t := by
  rw [EStateM.bind_eq_ok] at h
  rcases h with ⟨a, u, hx, h⟩
  rw [EStateM.pure_eq_ok] at h
  rw [← h.2]
  exact ⟨a, hx⟩

theorem infallible_pure (a : α) : Infallible (pure a : Service α) := by
  intro s e t
  apply EStateM.pure_ne_error

theorem infallible_query (select : Database → α) : Infallible (query [] select) := by
  intro s e t h
  rw [query_eq] at h
  injection h

theorem commit_added {row : NewRow} {commits : Bool} {s t u : Session} {a b : Unit}
    (hs : s.new = []) (hadd : add row s = .ok a t) (hcommit : commit commits t = .ok b u)
    : commits = true ∧ row.texts.all storable = true
        ∧ ∃ db, row.insert s.db = some db ∧ u = { db } := by
  rw [add_eq, hs, List.nil_append] at hadd
  injection hadd with _ hadd
  rw [← hadd, commit_eq_ok] at hcommit
  rcases hcommit with ⟨hcommits, db, hflush, hu⟩
  simp only [flush] at hflush
  split at hflush
  . next htexts =>
    rw [Option.bind_fun_some] at hflush
    exact ⟨hcommits, htexts, db, hflush, hu⟩
  . injection hflush

end Service

end Api
