import Ketabdaneh.Api.Database
import Ketabdaneh.Library.EState

namespace Api

open Text

/-- What the creating services raise; `database` is anything the driver or PostgreSQL raises. -/
inductive CreateError where
  | unknownRole (codes : List Str)
  | eventNotFound (id : UUID)
  | personNotFound (id : UUID)
  | unknownResponsibility (code : Str)
  | database

inductive NewRow where
  | person (row : Person) (links : List PersonRole)
  | event (row : Event)
  | eventAssignment (row : EventAssignment)

namespace NewRow

def texts : NewRow → List Str
  | .person row _ => row.name :: row.phone.toList
  | .event row => [row.title, row.type]
  | .eventAssignment _ => []

def insert (db : Database) : NewRow → Option Database
  | .person row links => db.insertPerson row links
  | .event row => db.insertEvent row
  | .eventAssignment row => db.insertEventAssignment row

def persons : NewRow → List Person
  | .person row _ => [row]
  | _ => []

def personRoles : NewRow → List PersonRole
  | .person _ links => links
  | _ => []

def events : NewRow → List Event
  | .event row => [row]
  | _ => []

def eventAssignments : NewRow → List EventAssignment
  | .eventAssignment row => [row]
  | _ => []

end NewRow

structure Session where
  db : Database
  new : List NewRow := []

abbrev Service :=
  EStateM CreateError Session

namespace Service

/-- A query with the texts it sends; nothing is added when a service queries. -/
def query {α : Type} (texts : List Str) (select : Database → α) : Service α := do
  let session ← get
  if texts.all storable then return select session.db else throw .database

def add (row : NewRow) : Service Unit :=
  modify fun session => { session with new := session.new ++ [row] }

def flush (db : Database) : List NewRow → Option Database
  | [] => some db
  | row :: rows =>
    if row.texts.all storable then (row.insert db).bind fun db => flush db rows else none

/-- The commit, which takes everything that was added or nothing. -/
def commit (commits : Bool) : Service Unit := do
  let session ← get
  match flush session.db session.new, commits with
  | some db, true => set { db : Session }
  | _, _ =>
    set { db := session.db : Session }
    throw .database

def call {α : Type} (db : Database) (service : Service α) : Except CreateError α × Database :=
  match service { db } with
  | .ok a session => (.ok a, session.db)
  | .error e session => (.error e, session.db)

variable {α : Type}

theorem query_eq (texts : List Str) (select : Database → α) (s : Session)
    : query texts select s
        =
      if texts.all storable then .ok (select s.db) s else .error .database s := by
  rw [query, EStateM.get_bind]
  split
  . rfl
  . rfl

theorem query_eq_ok {texts : List Str} {select : Database → α} {s t : Session} {a : α}
    : query texts select s = .ok a t ↔ texts.all storable = true ∧ select s.db = a ∧ s = t := by
  rw [query_eq]
  split
  . next h => simp [h]
  . next h => simp [h]

theorem query_bind_eq_ok {β : Type} {texts : List Str} {select : Database → α} {f : α → Service β}
    {s t : Session} {b : β}
    : (query texts select >>= f) s = .ok b t
        ↔
      texts.all storable = true ∧ f (select s.db) s = .ok b t := by
  rw [EStateM.bind_eq_ok]
  simp only [query_eq_ok]
  constructor
  . rintro ⟨a, u, ⟨htexts, ha, hu⟩, h⟩
    rw [ha, hu]
    exact ⟨htexts, h⟩
  . rintro ⟨htexts, h⟩
    exact ⟨_, _, ⟨htexts, rfl, rfl⟩, h⟩

theorem add_eq (row : NewRow) (s : Session)
    : add row s = .ok () { s with new := s.new ++ [row] } := rfl

theorem commit_eq (commits : Bool) (s : Session)
    : commit commits s
        =
      match flush s.db s.new, commits with
      | some db, true => .ok () { db }
      | _, _ => .error .database { db := s.db } := by
  rw [commit, EStateM.get_bind]
  cases flush s.db s.new with
  | none => rfl
  | some db =>
    cases commits with
    | true => rfl
    | false => rfl

theorem commit_eq_ok {commits : Bool} {s t : Session} {u : Unit}
    : commit commits s = .ok u t
        ↔
      commits = true ∧ ∃ db, flush s.db s.new = some db ∧ t = { db } := by
  rw [commit_eq]
  cases flush s.db s.new with
  | none => simp
  | some db =>
    cases commits with
    | true => simp [eq_comm]
    | false => simp

theorem commit_eq_error {commits : Bool} {s t : Session} {e : CreateError}
    (h : commit commits s = .error e t) : t.db = s.db := by
  rw [commit_eq] at h
  split at h
  . injection h
  . injection h with _ h
    rw [← h]

end Service

end Api
