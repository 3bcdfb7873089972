import Ketabdaneh.Api.Lemmas.Data
import Ketabdaneh.Api.Services.Lemmas.RoleResolution

/-!
This module contains that the creating services do statement by statement what they do as a whole,
when nothing runs beside them.
-/

namespace Api

open Text Transaction

namespace Statements

variable {α β : Type}

/-- Both read the same and go on with it, or both raise. -/
def Reads (p : DataProgram CreateError α) (service : Service α) : Prop :=
  ∀ data : Data,
    (∃ a, service { db := data.database } = .ok a { db := data.database }
        ∧ ∀ {β : Type} (q : α → DataProgram CreateError β) (committed : Data),
          run (dataSchema .database).apply committed data (p >>= q)
            =
          run (dataSchema .database).apply committed data (q a))
      ∨ ∃ e, service { db := data.database } = .error e { db := data.database }
        ∧ ∀ {β : Type} (q : α → DataProgram CreateError β) (committed : Data),
          run (dataSchema .database).apply committed data (p >>= q)
            =
          { outcome := .error e, store := committed }

/-- Both answer the same and leave the same database. -/
def Agrees (p : DataProgram CreateError α) (service : Service α) : Prop :=
  ∀ data : Data, (call (dataSchema .database).apply data p).answer
    =
  ((Service.call data.database service).1,
    { data with database := (Service.call data.database service).2 })

theorem reads_pure (a : α) : Reads (.pure a) (pure a) := by
  intro data
  exact Or.inl ⟨a, rfl, fun _ _ => rfl⟩

theorem reads_throw (e : CreateError) : Reads (.throw e : DataProgram CreateError α) (throw e) := by
  intro data
  exact Or.inr ⟨e, rfl, fun _ _ => rfl⟩

theorem reads_query (texts : List Str) (select : Database → α)
    : Reads (query texts select) (Service.query texts select) := by
  intro data
  unfold query
  rw [Service.query_eq]
  split
  . exact Or.inl ⟨_, rfl, fun _ _ => rfl⟩
  . exact Or.inr ⟨_, rfl, fun _ _ => rfl⟩

theorem bind_of_ok {service : Service α} {f : α → Service β} {s t : Session} {a : α}
    (h : service s = .ok a t) : (service >>= f) s = f a t := by
  simp only [bind, EStateM.bind, h]

theorem bind_of_error {service : Service α} {f : α → Service β} {s t : Session} {e : CreateError}
    (h : service s = .error e t) : (service >>= f) s = .error e t := by
  simp only [bind, EStateM.bind, h]

variable {p : DataProgram CreateError α} {service : Service α}
variable {q : α → DataProgram CreateError β} {f : α → Service β}

theorem Reads.bind (h : Reads p service) (hrest : ∀ a, Reads (q a) (f a))
    : Reads (p >>= q) (service >>= f) := by
  intro data
  rcases h data with ⟨a, hservice, hrun⟩ | ⟨e, hservice, hrun⟩
  . rw [bind_of_ok hservice]
    rcases hrest a data with ⟨b, hb, hrunb⟩ | ⟨e, he, hrune⟩
    . refine Or.inl ⟨b, hb, ?_⟩
      intro _ r committed
      rw [Program.bind_assoc, hrun, hrunb]
    . refine Or.inr ⟨e, he, ?_⟩
      intro _ r committed
      rw [Program.bind_assoc, hrun, hrune]
  . rw [bind_of_error hservice]
    refine Or.inr ⟨e, rfl, ?_⟩
    intro _ r committed
    rw [Program.bind_assoc, hrun]

theorem Reads.agrees_bind (h : Reads p service) (hrest : ∀ a, Agrees (q a) (f a))
    : Agrees (p >>= q) (service >>= f) := by
  intro data
  unfold call Service.call
  rcases h data with ⟨a, hservice, hrun⟩ | ⟨e, hservice, hrun⟩
  . rw [bind_of_ok hservice, hrun]
    exact hrest a data
  . rw [bind_of_error hservice, hrun]
    rfl

theorem Reads.agrees (h : Reads p service) : Agrees p service := by
  intro data
  have hbind : (p >>= Program.pure) = p := by
    clear h
    induction p with
    | pure a => rfl
    | throw e => rfl
    | select next ih => exact congrArg Program.select (funext ih)
    | write w next ih => exact congrArg (Program.write w) ih
    | commit next ih => exact congrArg Program.commit ih
    | emit event next ih => exact congrArg (Program.emit event) ih
  unfold call Service.call
  rcases h data with ⟨a, hservice, hrun⟩ | ⟨e, hservice, hrun⟩
  . rw [hservice, ← hbind, hrun]
    rfl
  . rw [hservice, ← hbind, hrun]
    rfl

theorem flush_singleton (db : Database) (row : NewRow)
    : Service.flush db [row] = if row.texts.all storable then row.insert db else none := by
  rw [Service.flush]
  split
  . cases row.insert db with
    | none => rfl
    | some db' => rfl
  . rfl

/-- The flush and the commit of one row, and what is read after it. -/
theorem agrees_addCommit_bind {row : NewRow} {commits : Bool} {q : DataProgram CreateError β}
    {f : Service β} (hrest : Agrees q f)
    : Agrees (addCommit row commits >>= fun _ => q)
        (do Service.add row; Service.commit commits; f) := by
  intro data
  have hcommit : (do Service.add row; Service.commit commits; f : Service β) { db := data.database }
      = (Service.commit commits >>= fun _ => f) { db := data.database, new := [row] } := rfl
  unfold call Service.call
  rw [hcommit]
  simp only [bind, EStateM.bind, Service.commit_eq, flush_singleton, addCommit, Program.bind, run,
    dataSchema]
  by_cases htexts : row.texts.all storable = true
  . rw [if_pos htexts, if_pos htexts]
    cases row.insert data.database with
    | none => rfl
    | some db' =>
      cases commits with
      | false => rfl
      | true => exact hrest { data with database := db' }
  . rw [if_neg htexts, if_neg htexts]
    rfl

theorem reads_resolveRoles (codes : List Str)
    : Reads (resolveRoles codes) (Api.resolveRoles codes) := by
  unfold resolveRoles Api.resolveRoles
  split
  . apply reads_pure
  . apply Reads.bind
    . apply reads_query
    . intro found
      dsimp only
      split
      . apply reads_throw
      . apply reads_pure

theorem reads_fetchEvent (id : UUID) : Reads (fetchEvent id) (Api.fetchEvent id) := by
  apply Reads.bind
  . apply reads_query
  . intro found
    cases found with
    | ok event => apply reads_pure
    | error e =>
      cases e with
      | notFound => apply reads_throw
      | database => apply reads_throw

theorem reads_fetchPerson (id : UUID) : Reads (fetchPerson id) (Api.fetchPerson id) := by
  apply Reads.bind
  . apply reads_query
  . intro found
    cases found with
    | some person => apply reads_pure
    | none => apply reads_throw

theorem reads_fetchResponsibility (code : Str)
    : Reads (fetchResponsibility code) (Api.fetchResponsibility code) := by
  apply Reads.bind
  . apply reads_query
  . intro found
    cases found with
    | some responsibility => apply reads_pure
    | none => apply reads_throw

theorem agrees_createEvent (payload : EventCreate) (id : UUID) (commits : Bool)
    : Agrees (createEvent payload id commits) (Api.createEvent payload id commits) := by
  apply agrees_addCommit_bind
  exact (reads_pure _).agrees

theorem agrees_createEventAssignment (payload : EventAssignmentCreate) (id : UUID) (commits : Bool)
    : Agrees (createEventAssignment payload id commits)
        (Api.createEventAssignment payload id commits) := by
  apply (reads_fetchEvent payload.eventId).agrees_bind
  intro _
  apply (reads_fetchPerson payload.personId).agrees_bind
  intro _
  apply (reads_fetchResponsibility payload.responsibility).agrees_bind
  intro responsibility
  apply agrees_addCommit_bind
  exact (reads_query _ _).agrees

/-- The service with the roles that the person was given. -/
def createPersonRoles (payload : PersonCreate) (id : UUID) (commits : Bool)
    : Service (Person × List Role) := do
  let roles ← Api.resolveRoles payload.roles.eraseDups
  let person : Person := ⟨id, payload.name, payload.phone, payload.active⟩
  Service.add (.person person (roles.map fun role => ⟨id, role.id⟩))
  Service.commit commits
  return (person, roles)

theorem agrees_createPerson (payload : PersonCreate) (id : UUID) (commits : Bool)
    : Agrees (createPerson payload id commits) (createPersonRoles payload id commits) := by
  apply (reads_resolveRoles payload.roles.eraseDups).agrees_bind
  intro roles
  apply agrees_addCommit_bind
  exact (reads_pure _).agrees

theorem call_createPerson (db : Database) (payload : PersonCreate) (id : UUID) (commits : Bool)
    : Service.call db (Api.createPerson payload id commits)
        =
      ((Service.call db (createPersonRoles payload id commits)).1.map Prod.fst,
        (Service.call db (createPersonRoles payload id commits)).2) := by
  have hmap : ∀ s, Api.createPerson payload id commits s
      = (Prod.fst <$> createPersonRoles payload id commits) s := by
    intro s
    simp only [Api.createPerson, createPersonRoles, map_bind, map_pure]
  unfold Service.call
  rw [hmap]
  simp only [Functor.map, EStateM.map]
  cases createPersonRoles payload id commits { db } with
  | ok a t => rfl
  | error e t => rfl

end Statements

end Api
