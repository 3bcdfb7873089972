import Ketabdaneh.Api.Services.Lemmas.Calls

/-!
This module contains what holds of the database after any calls of the creating services, whether
they succeed or fail.
-/

namespace Api

namespace Database

def memberships (db : Database) (personId : UUID) : List UUID :=
  (db.personRoles.rows.filter fun link => link.personId = personId).map PersonRole.roleId

structure Sound (db : Database) : Prop where
  draft : ∀ event ∈ db.events.rows, event.status = .DRAFT
  pending : ∀ row ∈ db.eventAssignments.rows, row.approvalStatus = .PENDING
  eventOf : ∀ row ∈ db.eventAssignments.rows, ∃ event ∈ db.events.rows, event.id = row.eventId
  personOf : ∀ row ∈ db.eventAssignments.rows, ∃ person ∈ db.persons.rows, person.id = row.personId
  responsibilityOf : ∀ row ∈ db.eventAssignments.rows,
    ∃ responsibility ∈ db.responsibilities.rows, responsibility.id = row.responsibilityId
  nodup : ∀ person ∈ db.persons.rows, (db.memberships person.id).Nodup
  roleOf : ∀ person ∈ db.persons.rows, ∀ roleId ∈ db.memberships person.id,
    ∃ role ∈ db.roles.rows, role.id = roleId

theorem nodup_memberships (db : Database) (personId : UUID)
    : (db.memberships personId).Nodup := by
  unfold memberships
  apply List.Nodup.of_map (fun roleId => (personId, roleId))
  have hkeys : (db.personRoles.rows.filter fun link => link.personId = personId).map PersonRole.key
      = ((db.personRoles.rows.filter fun link => link.personId = personId).map
          PersonRole.roleId).map fun roleId => (personId, roleId) := by
    rw [List.map_map]
    apply List.map_congr_left
    intro link hlink
    rw [List.mem_filter, decide_eq_true_eq] at hlink
    rw [Function.comp_apply, PersonRole.key, hlink.2]
  rw [← hkeys]
  apply List.Nodup.sublist (List.Sublist.map PersonRole.key List.filter_sublist)
  exact db.personRoles.nodup

theorem role_of_mem_memberships {db : Database} {personId roleId : UUID}
    (h : roleId ∈ db.memberships personId) : ∃ role ∈ db.roles.rows, role.id = roleId := by
  rw [memberships, List.mem_map] at h
  rcases h with ⟨link, hlink, hrole⟩
  rw [← hrole, ← List.mem_map]
  apply db.fk_person_roles_role_id
  apply List.mem_of_mem_filter
  assumption

/-- The references are sound in any database; what the services must see to are the two statuses. -/
theorem sound_of_statuses {db : Database} (hdraft : ∀ event ∈ db.events.rows, event.status = .DRAFT)
    (hpending : ∀ row ∈ db.eventAssignments.rows, row.approvalStatus = .PENDING) : db.Sound where
  draft := hdraft
  pending := hpending
  eventOf := by
    intro row hrow
    rw [← List.mem_map]
    exact db.fk_event_assignments_event_id row hrow
  personOf := by
    intro row hrow
    rw [← List.mem_map]
    exact db.fk_event_assignments_person_id row hrow
  responsibilityOf := by
    intro row hrow
    rw [← List.mem_map]
    exact db.fk_event_assignments_responsibility_id row hrow
  nodup := by
    intro person _
    apply nodup_memberships
  roleOf := by
    intro person _ roleId hroleId
    apply role_of_mem_memberships
    assumption

end Database

theorem Seed.sound_database (seed : Seed) : seed.database.Sound := by
  apply Database.sound_of_statuses
  . intro event hevent
    exact absurd hevent List.not_mem_nil
  . intro row hrow
    exact absurd hrow List.not_mem_nil

theorem Seed.count_database (seed : Seed) (kind : Kind) : seed.database.count kind = 0 := by
  cases kind with
  | person => rfl
  | event => rfl
  | eventAssignment => rfl

namespace Call

theorem statuses_of_row {call : Call} {db : Database} {row : NewRow} (h : call.row db = some row)
    : (∀ event ∈ row.events, event.status = .DRAFT)
        ∧ ∀ assignment ∈ row.eventAssignments, assignment.approvalStatus = .PENDING := by
  cases call with
  | createPerson payload id commits =>
    rw [Call.row, Option.some.injEq] at h
    rw [← h]
    simp [NewRow.events, NewRow.eventAssignments]
  | createEvent payload id commits =>
    rw [Call.row, Option.some.injEq] at h
    rw [← h]
    simp [NewRow.events, NewRow.eventAssignments]
  | createEventAssignment payload id commits =>
    rw [Call.row, Option.map_eq_some_iff] at h
    rcases h with ⟨responsibility, _, h⟩
    rw [← h]
    simp [NewRow.events, NewRow.eventAssignments]

theorem sound_after {db : Database} (h : db.Sound) (call : Call) : (call.after db).Sound := by
  cases hcall : call.succeeds db with
  | false =>
    rw [after_of_fails hcall]
    assumption
  | true =>
    rcases after_of_succeeds hcall with ⟨row, hrow, hadds⟩
    apply Database.sound_of_statuses
    . rw [hadds.events, List.forall_mem_append]
      constructor
      . exact h.draft
      . exact (statuses_of_row hrow).1
    . rw [hadds.eventAssignments, List.forall_mem_append]
      constructor
      . exact h.pending
      . exact (statuses_of_row hrow).2

theorem count_after (db : Database) (call : Call) (kind : Kind)
    : (call.after db).count kind
        =
      db.count kind + if call.succeeds db = true ∧ call.kind = kind then 1 else 0 := by
  cases hcall : call.succeeds db with
  | false => simp [after_of_fails hcall]
  | true =>
    rcases after_of_succeeds hcall with ⟨row, hrow, hadds⟩
    rw [hadds.count_eq, count_row hrow]
    simp

end Call

namespace Database

theorem sound_afterAll {db : Database} (h : db.Sound) (calls : List Call)
    : (db.afterAll calls).Sound := by
  induction calls generalizing db with
  | nil => assumption
  | cons call calls ih =>
    apply ih
    exact Call.sound_after h call

theorem count_afterAll (db : Database) (calls : List Call) (kind : Kind)
    : (db.afterAll calls).count kind
        =
      db.count kind + (Call.succeeding db calls).countP fun call => call.kind = kind := by
  induction calls generalizing db with
  | nil => rfl
  | cons call calls ih =>
    have hstep : (db.afterAll (call :: calls)) = (call.after db).afterAll calls := rfl
    rw [hstep, ih, Call.count_after, Call.succeeding]
    cases hcall : call.succeeds db with
    | false => simp
    | true =>
      simp only [true_and, if_true, List.countP_cons, decide_eq_true_eq]
      omega

theorem afterAll_concat (db : Database) (calls : List Call) (call : Call)
    : db.afterAll (calls ++ [call]) = call.after (db.afterAll calls) := by
  rw [afterAll_append]
  rfl

theorem grows_of_prefix (db : Database) {earlier calls : List Call} (h : earlier <+: calls)
    : (db.afterAll earlier).Grows (db.afterAll calls) := by
  rcases h with ⟨later, h⟩
  rw [← h, afterAll_append]
  apply grows_afterAll

end Database

/-- The store after any calls on a migrated database. -/
theorem Seed.store_invariant (seed : Seed) (calls : List Call)
    : (seed.database.afterAll calls).Sound
        ∧ (∀ kind, (seed.database.afterAll calls).count kind
            = (Call.succeeding seed.database calls).countP fun call => call.kind = kind)
        ∧ (∀ earlier, earlier <+: calls →
            (seed.database.afterAll earlier).Grows (seed.database.afterAll calls))
        ∧ ∀ earlier call, earlier ++ [call] <+: calls →
            call.succeeds (seed.database.afterAll earlier) = false →
              seed.database.afterAll (earlier ++ [call]) = seed.database.afterAll earlier := by
  refine ⟨?_, ?_, ?_, ?_⟩
  . apply Database.sound_afterAll
    apply Seed.sound_database
  . intro kind
    rw [Database.count_afterAll, Seed.count_database, Nat.zero_add]
  . intro earlier h
    exact Database.grows_of_prefix _ h
  . intro earlier call _ h
    rw [Database.afterAll_concat, Call.after_of_fails h]

end Api
