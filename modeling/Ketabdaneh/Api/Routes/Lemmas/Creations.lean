import Ketabdaneh.Api.Routes.Lemmas.Serving
import Ketabdaneh.Api.Services.Calls
import Ketabdaneh.Api.Services.Lemmas.Store

/-!
This module contains what requests that are served beside one another leave in the tables: one row for
each creation that was answered so, and none for what was refused.
-/

namespace Api

open Text Transaction

namespace Service

variable {α β : Type}

theorem call_bind_pure (db : Database) (service : Service α) (b : β)
    : call db (service >>= fun _ => pure b)
        =
      ((call db service).1.map fun _ => b, (call db service).2) := by
  simp only [call, bind, EStateM.bind]
  cases service { db } with
  | ok a session => rfl
  | error e session => rfl

theorem call_eq_ok {service : Service α} {a : α} {db db' : Database}
    (h : call db service = (.ok a, db')) : ∃ t, service { db } = .ok a t ∧ t.db = db' := by
  unfold call at h
  cases hservice : service { db } with
  | ok b t =>
    rw [hservice, Prod.mk.injEq, Except.ok.injEq] at h
    rw [h.1]
    exact ⟨t, rfl, h.2⟩
  | error e t =>
    rw [hservice] at h
    injection h with h
    injection h

end Service

/-- What is returned is what the table has for the id once it is committed. -/
theorem returned_createEventAssignment {payload : EventAssignmentCreate} {id : UUID} {commits : Bool}
    {db db' : Database} {row : Option EventAssignment}
    (h : Service.call db (createEventAssignment payload id commits) = (.ok row, db'))
    : row = db'.eventAssignments.get? id := by
  rcases Service.call_eq_ok h with ⟨t, hservice, ht⟩
  unfold createEventAssignment at hservice
  rw [EStateM.bind_eq_ok] at hservice
  rcases hservice with ⟨_, _, _, hservice⟩
  rw [EStateM.bind_eq_ok] at hservice
  rcases hservice with ⟨_, _, _, hservice⟩
  rw [EStateM.bind_eq_ok] at hservice
  rcases hservice with ⟨_, _, _, hservice⟩
  rw [EStateM.bind_eq_ok] at hservice
  rcases hservice with ⟨_, _, _, hservice⟩
  rw [EStateM.bind_eq_ok] at hservice
  rcases hservice with ⟨_, _, _, hservice⟩
  rw [Service.query_eq_ok] at hservice
  rw [← hservice.2.1, hservice.2.2, ht]

/-- The assignment that was committed is read again with its responsibility. -/
theorem readEventAssignment_createEventAssignment {payload : EventAssignmentCreate} {id : UUID}
    {commits : Bool} {db db' : Database} {row : Option EventAssignment}
    (h : Service.call db (createEventAssignment payload id commits) = (.ok row, db'))
    : ∃ read, row.bind (readEventAssignment db') = some read := by
  rcases Service.call_eq_ok h with ⟨t, hservice, ht⟩
  rcases createEventAssignment_eq_ok hservice with ⟨_, added, db'', hadded, _, hinsert, hwrites⟩
  rw [Call.row, Option.map_eq_some_iff] at hadded
  rcases hadded with ⟨responsibility, _, hadded⟩
  have hmem : ⟨id, payload.eventId, payload.personId, responsibility.id, .PENDING⟩
      ∈ db'.eventAssignments.rows := by
    rw [← ht, hwrites, (NewRow.insert_adds hinsert).eventAssignments, ← hadded]
    exact List.mem_append_right _ List.mem_cons_self
  rw [returned_createEventAssignment h, Table.get?_eq_some.mpr ⟨hmem, rfl⟩, Option.bind_some]
  exact readEventAssignment_isSome hmem

namespace Operation

def creation : Operation → Option Call
  | createPerson payload id commits => some (.createPerson payload id commits)
  | createEvent payload id commits => some (.createEvent payload id commits)
  | createEventAssignment payload id commits => some (.createEventAssignment payload id commits)
  | _ => none

variable (collate : Collation) (db : Database)

theorem handle_of_reads {operation : Operation} (h : operation.creation = none)
    : (operation.handle collate db).2 = db
        ∧ ∀ body, (operation.handle collate db).1 ≠ .ok ⟨201, body⟩ := by
  cases operation with
  | listRoles => exact ⟨rfl, by simp [handle]⟩
  | listPersons => exact ⟨rfl, by simp [handle]⟩
  | listEvents =>
    rw [handle]
    cases Api.listEvents db with
    | none => simp
    | some events => simp
  | getEvent id =>
    rw [handle]
    cases Api.getEvent db id with
    | ok event => simp
    | error e =>
      cases e with
      | notFound => simp
      | database => simp
  | listEventAssignments => exact ⟨rfl, by simp [handle]⟩
  | getEventAssignment id =>
    rw [handle]
    cases Api.getEventAssignment db id with
    | none => simp
    | some read => simp
  | createPerson => contradiction
  | createEvent => contradiction
  | createEventAssignment => contradiction

/-- A creation answers 201 when it succeeds, and only then. -/
theorem handle_of_creation {operation : Operation} {call : Call} (h : operation.creation = some call)
    : (operation.handle collate db).2 = call.after db
        ∧ ((∃ body, (operation.handle collate db).1 = .ok ⟨201, body⟩) ↔ call.succeeds db = true) := by
  cases operation with
  | createPerson payload id commits =>
    rw [creation, Option.some.injEq] at h
    rw [← h, Call.succeeds, Call.after, Call.perform, Call.service, handle, Service.call_bind_pure]
    cases Service.call db (Api.createPerson payload id commits) with
    | mk outcome db' =>
      cases outcome with
      | ok person => simp [Except.isOk, Except.toBool, Except.map]
      | error e => simp [Except.isOk, Except.toBool, Except.map]
  | createEvent payload id commits =>
    rw [creation, Option.some.injEq] at h
    rw [← h, Call.succeeds, Call.after, Call.perform, Call.service, handle, Service.call_bind_pure]
    cases Service.call db (Api.createEvent payload id commits) with
    | mk outcome db' =>
      cases outcome with
      | ok event => simp [Except.isOk, Except.toBool, Except.map]
      | error e => simp [Except.isOk, Except.toBool, Except.map]
  | createEventAssignment payload id commits =>
    rw [creation, Option.some.injEq] at h
    rw [← h, Call.succeeds, Call.after, Call.perform, Call.service, handle, Service.call_bind_pure]
    cases hcall : Service.call db (Api.createEventAssignment payload id commits) with
    | mk outcome db' =>
      cases outcome with
      | error e => simp [Except.isOk, Except.toBool, Except.map]
      | ok row =>
        rcases readEventAssignment_createEventAssignment hcall with ⟨read, hread⟩
        simp [hread, Except.isOk, Except.toBool, Except.map]
  | listRoles => contradiction
  | listPersons => contradiction
  | listEvents => contradiction
  | getEvent => contradiction
  | listEventAssignments => contradiction
  | getEventAssignment => contradiction

end Operation

namespace ProtectedRequest

variable (deployment : Deployment) (data : Data) (request : ProtectedRequest)

/-- It answers that it has created its row. -/
def creates : Bool :=
  match (request.handle deployment data).1 with
  | .ok response => response.status = 201
  | .error _ => false

/-- The row that it adds when it is taken. -/
def row : Option NewRow :=
  request.operation.creation.bind (Call.row data.database)

theorem creates_iff
    : request.creates deployment data = true
        ↔
      ∃ body, (request.handle deployment data).1 = .ok ⟨201, body⟩ := by
  unfold creates
  cases (request.handle deployment data).1 with
  | error raised => simp
  | ok response =>
    cases response with
    | mk status body => simp

theorem accounts_handle : (request.handle deployment data).2.accounts = data.accounts := by
  unfold handle
  split
  . rfl
  . rfl

theorem handle_of_creates (h : request.creates deployment data = true)
    : ∃ row, request.row data = some row
        ∧ data.database.Adds (request.handle deployment data).2.database row := by
  rw [creates_iff] at h
  rcases h with ⟨body, hbody⟩
  unfold handle at hbody ⊢
  split at hbody
  . injection hbody
  . next user hpermitted =>
    cases hcreation : request.operation.creation with
    | none => exact absurd hbody ((Operation.handle_of_reads _ _ hcreation).2 body)
    | some call =>
      rcases Operation.handle_of_creation deployment.collate data.database hcreation with
        ⟨hafter, hsucceeds⟩
      rcases Call.after_of_succeeds (hsucceeds.mp ⟨body, hbody⟩) with ⟨row, hrow, hadds⟩
      refine ⟨row, ?_, ?_⟩
      . rw [ProtectedRequest.row, hcreation]
        exact hrow
      . simp only [hafter]
        exact hadds

theorem handle_of_not_creates (h : request.creates deployment data = false)
    : (request.handle deployment data).2.database = data.database := by
  rw [← Bool.not_eq_true, creates_iff] at h
  unfold handle at h ⊢
  split
  . rfl
  . next user hpermitted =>
    rw [hpermitted] at h
    cases hcreation : request.operation.creation with
    | none => exact (Operation.handle_of_reads _ _ hcreation).1
    | some call =>
      rcases Operation.handle_of_creation deployment.collate data.database hcreation with
        ⟨hafter, hsucceeds⟩
      simp only [hafter]
      apply Call.after_of_fails
      rw [← Bool.not_eq_true, ← hsucceeds]
      exact h

theorem sound_handle (h : data.database.Sound) : (request.handle deployment data).2.database.Sound := by
  unfold handle
  split
  . exact h
  . cases hcreation : request.operation.creation with
    | none =>
      simp only [(Operation.handle_of_reads deployment.collate data.database hcreation).1]
      exact h
    | some call =>
      simp only [(Operation.handle_of_creation deployment.collate data.database hcreation).1]
      exact Call.sound_after h call

/-- A request that has taken no statement has created nothing. -/
theorem outcome_start (response : Response)
    : Session.outcome { program := request.statements deployment } ≠ some (.ok response) := by
  have hthrow : ∀ raised : Raised, some (Except.error raised) ≠ some (Except.ok response) := by
    simp
  unfold statements Statements.requirePermission Statements.getCurrentUser
  cases deployment.httpBearer request.header with
  | none => exact hthrow _
  | some credentials =>
    dsimp only
    split
    . exact hthrow _
    . cases resolveTokenSubject request.jwt request.settings credentials.credentials with
      | error e =>
        cases e with
        | invalidToken => exact hthrow _
        | insecureSecret => exact hthrow _
        | other => exact hthrow _
      | ok subject =>
        dsimp only
        cases Python.uuid subject with
        | none => exact hthrow _
        | some userId => exact Option.some_ne_none _ |>.symm

end ProtectedRequest

theorem database_write (data : Data) (write : AccountWrite)
    : (data.write write).database = data.database := by
  unfold Data.write
  split
  . rfl
  . rfl

namespace Database

/-- The tables have these rows besides, in this order. -/
structure AddsAll (db db' : Database) (rows : List NewRow) : Prop where
  roles : db'.roles = db.roles
  responsibilities : db'.responsibilities = db.responsibilities
  persons : db'.persons.rows = db.persons.rows ++ rows.flatMap NewRow.persons
  personRoles : db'.personRoles.rows = db.personRoles.rows ++ rows.flatMap NewRow.personRoles
  events : db'.events.rows = db.events.rows ++ rows.flatMap NewRow.events
  eventAssignments :
    db'.eventAssignments.rows = db.eventAssignments.rows ++ rows.flatMap NewRow.eventAssignments

theorem addsAll_nil (db : Database) : db.AddsAll db [] := by
  constructor
  . rfl
  . rfl
  all_goals exact (List.append_nil _).symm

theorem Adds.addsAll_cons {a b c : Database} {row : NewRow} {rows : List NewRow} (hab : a.Adds b row)
    (hbc : b.AddsAll c rows) : a.AddsAll c (row :: rows) := by
  constructor
  . rw [hbc.roles, hab.roles]
  . rw [hbc.responsibilities, hab.responsibilities]
  . rw [hbc.persons, hab.persons, List.append_assoc, List.flatMap_cons]
  . rw [hbc.personRoles, hab.personRoles, List.append_assoc, List.flatMap_cons]
  . rw [hbc.events, hab.events, List.append_assoc, List.flatMap_cons]
  . rw [hbc.eventAssignments, hab.eventAssignments, List.append_assoc, List.flatMap_cons]

end Database

section

variable {ι : Type} (deployment : Deployment) (requests : ι → ProtectedRequest)

/-- The requests that create something when they are taken one after the other. -/
def creating (data : Data) : List (Action ι AccountWrite) → List ι
  | [] => []
  | .change write :: actions => creating (data.write write) actions
  | .statement i :: actions =>
    let rest := creating ((requests i).handle deployment data).2 actions
    if (requests i).creates deployment data then i :: rest else rest

theorem creating_sublist (data : Data) (actions : List (Action ι AccountWrite))
    : (creating deployment requests data actions).Sublist (actions.filterMap Action.session?) := by
  induction actions generalizing data with
  | nil => exact List.Sublist.refl []
  | cons action actions ih =>
    cases action with
    | change write => exact ih (data.write write)
    | statement i =>
      rw [creating]
      split
      . exact (ih _).cons_cons i
      . exact (ih _).cons i

/-- The first action or a later one. -/
theorem exists_split_cons {data : Data} {action : Action ι AccountWrite}
    {actions : List (Action ι AccountWrite)} {i : ι} (P : Data → Prop)
    : (∃ before after, action :: actions = before ++ .statement i :: after
          ∧ P (data.afterAll deployment requests before))
        ↔
      action = .statement i ∧ P data
        ∨ ∃ before after, actions = before ++ .statement i :: after
          ∧ P ((data.after deployment requests action).afterAll deployment requests before) := by
  constructor
  . rintro ⟨before, after, hsplit, hP⟩
    rw [List.cons_eq_append_iff] at hsplit
    rcases hsplit with ⟨hbefore, hafter⟩ | ⟨before', hbefore, hafter⟩
    . rw [List.cons.injEq] at hafter
      rw [hbefore] at hP
      exact Or.inl ⟨hafter.1.symm, hP⟩
    . rw [hbefore] at hP
      exact Or.inr ⟨before', after, hafter, hP⟩
  . rintro (⟨haction, hP⟩ | ⟨before, after, hsplit, hP⟩)
    . rw [haction]
      exact ⟨[], actions, rfl, hP⟩
    . refine ⟨action :: before, after, ?_, hP⟩
      rw [hsplit, List.cons_append]

theorem mem_creating {data : Data} {actions : List (Action ι AccountWrite)} {i : ι}
    : i ∈ creating deployment requests data actions
        ↔
      ∃ before after, actions = before ++ .statement i :: after
        ∧ (requests i).creates deployment (data.afterAll deployment requests before) = true := by
  induction actions generalizing data with
  | nil => simp [creating]
  | cons action actions ih =>
    refine Iff.trans ?_
      (exists_split_cons deployment requests fun t => (requests i).creates deployment t = true).symm
    rw [← ih]
    cases action with
    | change write => simp [creating, Data.after]
    | statement j =>
      rw [creating, Action.statement.injEq, Data.after]
      split
      . next hcreates =>
        rw [List.mem_cons]
        constructor
        . rintro (heq | hrest)
          . rw [heq]
            exact Or.inl ⟨rfl, hcreates⟩
          . exact Or.inr hrest
        . rintro (⟨heq, _⟩ | hrest)
          . exact Or.inl heq.symm
          . exact Or.inr hrest
      . next hcreates =>
        constructor
        . exact Or.inr
        . rintro (⟨heq, hi⟩ | hrest)
          . rw [heq] at hcreates
            exact absurd hi hcreates
          . exact hrest

theorem row_eq_of_extends {data data' : Data} (h : data ≤ data') (request : ProtectedRequest)
    : request.row data' = request.row data := by
  unfold ProtectedRequest.row
  congr 1
  funext call
  cases call with
  | createPerson payload id commits =>
    rw [Call.row, h.2.findRole]
    rfl
  | createEvent payload id commits => rfl
  | createEventAssignment payload id commits =>
    rw [Call.row, h.2.findResponsibility]
    rfl

/-- Each of them adds its own row. -/
theorem afterAll_adds (data : Data) (actions : List (Action ι AccountWrite))
    : ∃ rows, (creating deployment requests data actions).map (fun i => (requests i).row data)
          = rows.map some
        ∧ data.database.AddsAll (data.afterAll deployment requests actions).database rows := by
  induction actions generalizing data with
  | nil => exact ⟨[], rfl, Database.addsAll_nil data.database⟩
  | cons action actions ih =>
    rcases ih (data.after deployment requests action) with ⟨rows, hrows, hadds⟩
    have hrow : (fun i => (requests i).row (data.after deployment requests action))
        = fun i => (requests i).row data := by
      funext i
      exact row_eq_of_extends (le_afterAll deployment requests data [action]) (requests i)
    rw [hrow] at hrows
    cases action with
    | change write =>
      rw [Data.after, database_write] at hadds
      exact ⟨rows, hrows, hadds⟩
    | statement i =>
      rw [creating]
      split
      . next hcreates =>
        rcases (requests i).handle_of_creates deployment data hcreates with ⟨row, hrow, hadd⟩
        refine ⟨row :: rows, ?_, hadd.addsAll_cons hadds⟩
        rw [List.map_cons, List.map_cons, hrow, ← hrows]
        rfl
      . next hcreates =>
        rw [Bool.not_eq_true] at hcreates
        rw [Data.after, (requests i).handle_of_not_creates deployment data hcreates] at hadds
        exact ⟨rows, hrows, hadds⟩

/-- The requests leave the tables of the users alone. -/
theorem accounts_afterAll (data : Data) (actions : List (Action ι AccountWrite))
    : (data.afterAll deployment requests actions).accounts
        =
      ((actions.filterMap Action.change?).foldl Data.write data).accounts := by
  have hfold : ∀ (writes : List AccountWrite) (a b : Data), a.accounts = b.accounts →
      (writes.foldl Data.write a).accounts = (writes.foldl Data.write b).accounts := by
    intro writes
    induction writes with
    | nil =>
      intro a b h
      exact h
    | cons write writes ih =>
      intro a b h
      apply ih
      unfold Data.write
      rw [h]
      cases write.apply b.accounts with
      | ok accounts => rfl
      | error e => exact h
  induction actions generalizing data with
  | nil => rfl
  | cons action actions ih =>
    rw [Data.afterAll, List.foldl_cons]
    refine Eq.trans (ih (data.after deployment requests action)) ?_
    cases action with
    | change write => rfl
    | statement i =>
      apply hfold
      exact (requests i).accounts_handle deployment data

theorem sound_afterAll {data : Data} (h : data.database.Sound) (actions : List (Action ι AccountWrite))
    : (data.afterAll deployment requests actions).database.Sound := by
  induction actions generalizing data with
  | nil => exact h
  | cons action actions ih =>
    refine @ih (data.after deployment requests action) ?_
    cases action with
    | change write =>
      rw [Data.after, database_write]
      exact h
    | statement i => exact (requests i).sound_handle deployment data h

/--
Each of `created` has added its own row, in this order, and nothing else has been done to the tables.
They are the requests that were answered so, and such as have not been answered yet.
-/
structure OneRowEach (data : Data) (schedule : List (Action ι AccountWrite))
    (w : System ι Data NewRow Empty Raised Response) (created : List ι) (rows : List NewRow) : Prop where
  nodup : created.Nodup
  own : created.map (fun i => (requests i).row data) = rows.map some
  adds : data.database.AddsAll w.store.database rows
  of_answer : ∀ i body, (w.sessions i).outcome = some (.ok ⟨201, body⟩) → i ∈ created
  answer : ∀ i ∈ created, .statement i ∈ schedule
    ∧ ((w.sessions i).outcome = none ∨ ∃ body, (w.sessions i).outcome = some (.ok ⟨201, body⟩))
  sound : data.database.Sound → w.store.database.Sound
  accounts : w.store.accounts = ((schedule.filterMap Action.change?).foldl Data.write data).accounts

/--
The tables grow by one row for each creation that was answered, or is committed and will be, and by
nothing else.
-/
theorem serve_oneRowEach [Fintype ι] [DecidableEq ι] (data : Data)
    {schedule : List (Action ι AccountWrite)} {w : System ι Data NewRow Empty Raised Response}
    (hrun : serve deployment requests data schedule = some w)
    : ∃ created rows, OneRowEach requests data schedule w created rows := by
  rcases linearizable_serve hrun with ⟨order, hlinearizes, _⟩
  have h := serializes_of_linearizes hlinearizes
  rcases afterAll_adds deployment requests data order with ⟨rows, hrows, hadds⟩
  have hcreating := creating_sublist deployment requests data order
  refine ⟨creating deployment requests data order, rows, ?_⟩
  constructor
  . exact h.once.sublist hcreating
  . exact hrows
  . rw [h.store]
    exact hadds
  . intro i body hanswer
    have hbegan : .statement i ∈ schedule := by
      by_contra hnot
      rw [Schema.sessions_of_run hrun hnot] at hanswer
      exact (requests i).outcome_start deployment _ hanswer
    have hplace := h.answered i hbegan (by rw [hanswer]; apply Option.some_ne_none)
    rcases List.append_of_mem hplace with ⟨before, after, hsplit⟩
    rw [mem_creating]
    refine ⟨before, after, hsplit, ?_⟩
    rw [ProtectedRequest.creates_iff]
    exact ⟨body, h.answer before i after _ hsplit hanswer⟩
  . intro i hi
    rw [mem_creating] at hi
    rcases hi with ⟨before, after, hsplit, hcreates⟩
    rw [ProtectedRequest.creates_iff] at hcreates
    rcases hcreates with ⟨body, hbody⟩
    constructor
    . apply h.began
      rw [hsplit]
      apply List.mem_append_right
      exact List.mem_cons_self
    . cases hanswer : (w.sessions i).outcome with
      | none => exact Or.inl rfl
      | some answer =>
        rw [← h.answer before i after answer hsplit hanswer, hbody]
        exact Or.inr ⟨body, rfl⟩
  . intro hsound
    rw [h.store]
    exact sound_afterAll deployment requests hsound order
  . rw [h.store, accounts_afterAll, h.writes]

end

/-- Two people with one id: one of them is created. -/
def rivals (i : Bool) : ProtectedRequest :=
  byOperator (.createPerson ⟨if i then ofString "Mina" else ofString "Mani", none, true, []⟩ 5 true)

def bothBegin : List (Action Bool AccountWrite) :=
  [.statement true, .statement false, .statement true, .statement false, .statement true,
    .statement true, .statement false]

theorem serve_oneRowEach_rivals :
    ∃ w created rows, serve plainDeployment rivals registrars bothBegin = some w
      ∧ OneRowEach rivals registrars bothBegin w created rows := by
  have hsome : (serve plainDeployment rivals registrars bothBegin).isSome = true := by decide +kernel
  rcases Option.isSome_iff_exists.mp hsome with ⟨w, hrun⟩
  rcases serve_oneRowEach plainDeployment rivals registrars hrun with ⟨created, rows, h⟩
  exact ⟨w, created, rows, hrun, h⟩

end Api
