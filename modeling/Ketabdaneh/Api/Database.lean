import Ketabdaneh.Library.Table
import Ketabdaneh.Library.Python.Uuid

/-!
This module contains the tables of the API with their constraints, and the inserts that PostgreSQL
takes under them. The audit columns, which nothing reads, are left out.
-/

namespace Api

open Text

abbrev UUID :=
  Fin (2 ^ 128)

instance UUID.lawfulBEq : LawfulBEq UUID :=
  inferInstance

structure Role where
  id : UUID
  code : Str
  name : Str

structure EventResponsibility where
  id : UUID
  code : Str
  name : Str
  active : Bool

structure Person where
  id : UUID
  name : Str
  phone : Option Str
  active : Bool

structure PersonRole where
  personId : UUID
  roleId : UUID

def PersonRole.key (link : PersonRole) : UUID × UUID :=
  (link.personId, link.roleId)

inductive EventStatus where
  | DRAFT
  | SCHEDULED
  | IN_PROGRESS
  | COMPLETED
  | CANCELLED
  deriving DecidableEq

/-- A planned event; its time is an instant, in microseconds since the start of 1970. -/
structure Event where
  id : UUID
  title : Str
  type : Str
  plannedAt : Int
  status : EventStatus := .DRAFT

inductive ApprovalStatus where
  | PENDING
  | APPROVED
  deriving DecidableEq

structure EventAssignment where
  id : UUID
  eventId : UUID
  personId : UUID
  responsibilityId : UUID
  approvalStatus : ApprovalStatus := .PENDING

structure Database where
  roles : Table Role Role.id
  responsibilities : Table EventResponsibility EventResponsibility.id
  persons : Table Person Person.id := {}
  personRoles : Table PersonRole PersonRole.key := {}
  events : Table Event Event.id := {}
  eventAssignments : Table EventAssignment EventAssignment.id := {}
  uq_roles_code : (roles.rows.map Role.code).Nodup
  uq_roles_name : (roles.rows.map Role.name).Nodup
  uq_event_responsibilities_code : (responsibilities.rows.map EventResponsibility.code).Nodup
  uq_event_responsibilities_name : (responsibilities.rows.map EventResponsibility.name).Nodup
  fk_person_roles_person_id :
    ∀ link ∈ personRoles.rows, link.personId ∈ persons.rows.map Person.id := by simp
  fk_person_roles_role_id :
    ∀ link ∈ personRoles.rows, link.roleId ∈ roles.rows.map Role.id := by simp
  fk_event_assignments_event_id :
    ∀ row ∈ eventAssignments.rows, row.eventId ∈ events.rows.map Event.id := by simp
  fk_event_assignments_person_id :
    ∀ row ∈ eventAssignments.rows, row.personId ∈ persons.rows.map Person.id := by simp
  fk_event_assignments_responsibility_id :
    ∀ row ∈ eventAssignments.rows,
      row.responsibilityId ∈ responsibilities.rows.map EventResponsibility.id := by simp

/-- A text that the driver can send: it has UTF-8 bytes, and no NUL among them. -/
def storable (s : Str) : Bool :=
  encodable s && !s.contains (cp '\x00')

namespace Database

theorem mem_map_of_append {α β : Type} {f : α → β} {rows rows' new : List α} {b : β}
    (hrows : rows' = rows ++ new) (h : b ∈ rows.map f) : b ∈ rows'.map f := by
  rw [hrows, List.map_append]
  exact List.mem_append_left _ h

def insertPerson (db : Database) (person : Person) (links : List PersonRole) : Option Database :=
  match hperson : db.persons.insert? person, hlinks : db.personRoles.insertAll? links with
  | some persons, some personRoles =>
    if h : ∀ link ∈ links, link.personId ∈ persons.rows.map Person.id
        ∧ link.roleId ∈ db.roles.rows.map Role.id then
      some { db with
        persons
        personRoles
        fk_person_roles_person_id := by
          rw [Table.insertAll?_eq_some.mp hlinks, List.forall_mem_append]
          constructor
          . intro link hlink
            exact mem_map_of_append (Table.insert?_eq_some.mp hperson)
              (db.fk_person_roles_person_id link hlink)
          . intro link hlink
            exact (h link hlink).1
        fk_person_roles_role_id := by
          rw [Table.insertAll?_eq_some.mp hlinks, List.forall_mem_append]
          constructor
          . exact db.fk_person_roles_role_id
          . intro link hlink
            exact (h link hlink).2
        fk_event_assignments_person_id := by
          intro row hrow
          exact mem_map_of_append (Table.insert?_eq_some.mp hperson)
            (db.fk_event_assignments_person_id row hrow)
      }
    else
      none
  | _, _ => none

def insertEvent (db : Database) (event : Event) : Option Database :=
  match hevent : db.events.insert? event with
  | some events =>
    some { db with
      events
      fk_event_assignments_event_id := by
        intro row hrow
        exact mem_map_of_append (Table.insert?_eq_some.mp hevent)
          (db.fk_event_assignments_event_id row hrow)
    }
  | none => none

def insertEventAssignment (db : Database) (row : EventAssignment) : Option Database :=
  match hrow : db.eventAssignments.insert? row with
  | some eventAssignments =>
    if h : row.eventId ∈ db.events.rows.map Event.id
        ∧ row.personId ∈ db.persons.rows.map Person.id
        ∧ row.responsibilityId ∈ db.responsibilities.rows.map EventResponsibility.id then
      some { db with
        eventAssignments
        fk_event_assignments_event_id := by
          rw [Table.insert?_eq_some.mp hrow, List.forall_mem_append, List.forall_mem_singleton]
          exact ⟨db.fk_event_assignments_event_id, h.1⟩
        fk_event_assignments_person_id := by
          rw [Table.insert?_eq_some.mp hrow, List.forall_mem_append, List.forall_mem_singleton]
          exact ⟨db.fk_event_assignments_person_id, h.2.1⟩
        fk_event_assignments_responsibility_id := by
          rw [Table.insert?_eq_some.mp hrow, List.forall_mem_append, List.forall_mem_singleton]
          exact ⟨db.fk_event_assignments_responsibility_id, h.2.2⟩
      }
    else
      none
  | none => none

/-- Every row there was is still there, as it was. -/
structure Grows (db db' : Database) : Prop where
  roles : db'.roles = db.roles
  responsibilities : db'.responsibilities = db.responsibilities
  persons : db.persons.rows <+: db'.persons.rows
  personRoles : db.personRoles.rows <+: db'.personRoles.rows
  events : db.events.rows <+: db'.events.rows
  eventAssignments : db.eventAssignments.rows <+: db'.eventAssignments.rows

end Database

end Api
