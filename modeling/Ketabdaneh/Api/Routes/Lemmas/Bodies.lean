import Ketabdaneh.Api.Routes.Bodies
import Ketabdaneh.Api.Routes.Lemmas.LaterReads
import Ketabdaneh.Api.Services.Lemmas.RoleResolution

/-!
This module contains when `POST /api/persons` creates a person, and that the person is the one that
was sent.
-/

namespace Api

open Database Python Text

/-- The answer is about a person that was sent so. -/
structure PersonRead.AsSent (read : PersonRead) (payload : PersonCreate) : Prop where
  name : read.name = payload.name
  phone : read.phone = payload.phone
  active : read.active = payload.active
  roles : (read.roles.map Role.code).Perm payload.roles.eraseDups

section

variable {db : Database} {payload : PersonCreate} {id : UUID} {commits : Bool} {person : Person}

theorem map_code_filterMap_findRole {codes : List Str} (h : ∀ code ∈ codes, db.HasRole code)
    : (codes.filterMap (findRole db)).map Role.code = codes := by
  induction codes with
  | nil => rfl
  | cons code codes ih =>
    rcases h code List.mem_cons_self with ⟨role, hrole⟩
    have hrest := ih fun code hcode => h code (List.mem_cons_of_mem _ hcode)
    rw [List.filterMap_cons_some (findRole_eq_some.mpr hrole), List.map_cons, hrest, hrole.2]

/-- What it takes for a person to be created. -/
structure PersonCreate.Takes (payload : PersonCreate) (db : Database) (id : UUID) : Prop where
  texts : payload.HasStorableTexts
  codes : payload.roles.eraseDups.all storable = true
  known : ∀ code ∈ payload.roles, db.HasRole code
  fresh : id ∉ db.persons.rows.map Person.id

theorem createPersonRoles_eq_ok {roles : List Role} {t : Session}
    (h : Statements.createPersonRoles payload id commits { db } = .ok (person, roles) t)
    : commits = true ∧ payload.Takes db id ∧ person = payload.person id
        ∧ roles = payload.roles.eraseDups.filterMap (findRole db)
        ∧ db.Adds t.db (.person person (roles.map fun role => ⟨id, role.id⟩)) := by
  unfold Statements.createPersonRoles at h
  rw [EStateM.bind_eq_ok] at h
  rcases h with ⟨found, s, hroles, h⟩
  rcases resolveRoles_eq_ok hroles with ⟨hfound, hs⟩
  rw [EStateM.bind_eq_ok] at h
  rcases h with ⟨_, u, hadd, h⟩
  rw [EStateM.bind_eq_ok] at h
  rcases h with ⟨_, v, hcommit, h⟩
  rw [EStateM.pure_eq_ok, Prod.mk.injEq] at h
  rw [hs] at hadd
  rcases Service.commit_added rfl hadd hcommit with ⟨hcommits, htexts, db', hinsert, hv⟩
  have hadds := NewRow.insert_adds hinsert
  rw [resolveRoles_eq] at hroles
  split at hroles
  . next hcodes =>
    split at hroles
    . next hmissing =>
      refine ⟨hcommits, ⟨?_, hcodes, ?_, ?_⟩, h.1.1.symm, ?_, ?_⟩
      . exact PersonCreate.all_storable_texts.mp htexts
      . exact PersonCreate.missingRoles_eraseDups.mp hmissing
      . intro hid
        have hnodup := db'.persons.nodup
        rw [hadds.persons, List.map_append] at hnodup
        exact List.disjoint_of_nodup_append hnodup hid List.mem_cons_self
      . rw [← h.1.2, hfound]
      . rw [← h.2, ← h.1.1, ← h.1.2, hv]
        exact hadds
    . injection hroles
  . injection hroles

theorem call_createPerson_eq_ok {db' : Database}
    (h : Service.call db (createPerson payload id commits) = (.ok person, db'))
    : commits = true ∧ payload.Takes db id ∧ person = payload.person id
        ∧ (∃ links, db.Adds db' (.person person links))
        ∧ (readPerson db' person).AsSent payload := by
  rw [Statements.call_createPerson, Prod.mk.injEq] at h
  rcases Except.map_eq_ok.mp h.1 with ⟨⟨found, roles⟩, hcreated, hperson⟩
  rcases Service.call_eq_ok (Prod.ext hcreated h.2) with ⟨t, hservice, ht⟩
  have hfound : found = person := hperson
  rw [hfound] at hservice
  rcases createPersonRoles_eq_ok hservice with ⟨hcommits, htakes, hsent, hroles, hadds⟩
  rw [ht] at hadds
  refine ⟨hcommits, htakes, hsent, ⟨_, hadds⟩, ?_⟩
  unfold readPerson
  rw [← ht, Statements.rolesOf_createPersonRoles hservice]
  constructor
  . rw [hsent]
    rfl
  . rw [hsent]
    rfl
  . rw [hsent]
    rfl
  . unfold PersonRead.ofPerson deterministicRoleOrder
    refine ((List.mergeSort_perm _ _).map Role.code).trans ?_
    rw [hroles, map_code_filterMap_findRole]
    intro code hcode
    exact htakes.known code (List.mem_eraseDups.mp hcode)

theorem call_createPerson_of_takes (h : payload.Takes db id)
    : ∃ db', Service.call db (createPerson payload id true) = (.ok (payload.person id), db') := by
  rcases PersonCreate.createPerson_of_known h.fresh h.codes
    (PersonCreate.missingRoles_eraseDups.mpr h.known) h.texts with ⟨db', hcreate, _⟩
  refine ⟨db', ?_⟩
  unfold Service.call
  rw [hcreate]

end

theorem Service.call_eq_error {α : Type} {service : Service α} (hatomic : Atomic service)
    {db db' : Database} {e : CreateError} (h : call db service = (.error e, db')) : db' = db := by
  unfold call at h
  cases hservice : service { db } with
  | ok a t =>
    rw [hservice] at h
    injection h with h
    injection h
  | error e' t =>
    rw [hservice] at h
    injection h with _ h
    rw [← h]
    exact hatomic _ _ _ hservice

/-- The response tells that a person has been created. -/
def HttpResponse.Creates (response : HttpResponse) (read : PersonRead) : Prop :=
  response = ⟨201, .body (.person read)⟩

theorem HttpResponse.Creates.unique {response : HttpResponse} {read read' : PersonRead}
    (h : response.Creates read) (h' : response.Creates read') : read = read' := by
  unfold Creates at h h'
  rw [h] at h'
  injection h' with _ hbody
  injection hbody with hbody
  injection hbody

def HttpResponse.createdId (response : HttpResponse) : Option UUID :=
  match response.content with
  | .body (.person read) => if response.status = 201 then some read.id else none
  | _ => none

theorem HttpResponse.createdId_eq_some {response : HttpResponse} {id : UUID}
    : response.createdId = some id ↔ ∃ read, response.Creates read ∧ read.id = id := by
  unfold Creates
  constructor
  . intro h
    unfold createdId at h
    split at h
    . next read hcontent =>
      split at h
      . next hstatus =>
        injection h with h
        refine ⟨read, ?_, h⟩
        rw [← hstatus, ← hcontent]
      . contradiction
    . contradiction
  . rintro ⟨read, hresponse, hid⟩
    rw [hresponse, ← hid]
    rfl

theorem HttpResponse.status_of_raised {raised : Raised}
    (h : ∀ e, raised = .http e → 400 ≤ e.status)
    : 400 ≤ (HttpResponse.of (.error raised)).status := by
  cases raised with
  | http e => exact h e rfl
  | unhandled => exact (by decide : 400 ≤ 500)

theorem ProtectedRequest.le_handle (deployment : Deployment) (request : ProtectedRequest)
    (data : Data)
    : data ≤ (request.handle deployment data).2 :=
  le_afterAll deployment (fun _ : Unit => request) data [.statement ()]

namespace PostRequest

variable {deployment : Deployment}
  {personCreate : Json → Except (List ValidationIssue) PersonCreate} {data : Data}
  {request : PostRequest} {serving : Serving}

def permitted (deployment : Deployment) (data : Data) (request : PostRequest) (serving : Serving)
    : Bool :=
  (requirePermission PEOPLE_CREATE serving.jwt serving.settings deployment.httpBearer request.header
    data.accounts).isOk

/-- What the request comes to: the person of its body, or nothing. -/
structure Created (deployment : Deployment)
    (personCreate : Json → Except (List ValidationIssue) PersonCreate) (data data' : Data)
    (request : PostRequest) (serving : Serving) (payload : PersonCreate) (read : PersonRead)
    : Prop where
  body : personCreate request.body = .ok payload
  permitted : request.permitted deployment data serving = true
  commits : serving.commits = true
  takes : payload.Takes data.database serving.id
  id : read.id = serving.id
  sent : read.AsSent payload
  shown : (Resource.person read).In data'.database
  accounts : data'.accounts = data.accounts
  adds : ∃ links, data.database.Adds data'.database (.person (payload.person serving.id) links)

theorem status_of_refused {raised : Raised}
    (h : requirePermission PEOPLE_CREATE serving.jwt serving.settings deployment.httpBearer
      request.header data.accounts = .error raised)
    : 400 ≤ (HttpResponse.of (.error raised)).status := by
  apply HttpResponse.status_of_raised
  intro e he
  rw [he] at h
  rcases requirePermission_raises h with hhttp | hhttp | hhttp
  . injection hhttp with hhttp
    rw [hhttp]
    decide
  . injection hhttp with hhttp
    rw [hhttp]
    decide
  . injection hhttp

theorem createPerson_cases
    : (∃ payload read,
          ((request.createPerson deployment personCreate data serving).1.Creates read)
            ∧ Created deployment personCreate data
              (request.createPerson deployment personCreate data serving).2 request serving payload
              read)
        ∨ 400 ≤ (request.createPerson deployment personCreate data serving).1.status
          ∧ (request.createPerson deployment personCreate data serving).2 = data := by
  unfold createPerson
  cases hbody : personCreate request.body with
  | error issues =>
    dsimp only
    cases hcheck : requirePermission PEOPLE_CREATE serving.jwt serving.settings
      deployment.httpBearer request.header data.accounts with
    | error raised => exact Or.inr ⟨status_of_refused hcheck, rfl⟩
    | ok user =>
      dsimp only
      right
      split
      . exact ⟨(by decide : 400 ≤ 422), rfl⟩
      . exact ⟨(by decide : 400 ≤ 500), rfl⟩
  | ok payload =>
    dsimp only
    unfold ProtectedRequest.handle
    simp only [creation, Operation.permission]
    cases hcheck : requirePermission PEOPLE_CREATE serving.jwt serving.settings
      deployment.httpBearer request.header data.accounts with
    | error raised => exact Or.inr ⟨status_of_refused hcheck, rfl⟩
    | ok user =>
      dsimp only
      rw [Operation.handle]
      cases hcall : Service.call data.database
        (Api.createPerson payload serving.id serving.commits) with
      | mk outcome db' =>
        cases outcome with
        | error e =>
          right
          constructor
          . apply HttpResponse.status_of_raised
            intro raised he
            cases e with
            | unknownRole codes =>
              injection he with he
              rw [← he]
              exact (by decide : 400 ≤ 422)
            | _ => contradiction
          . rw [Service.call_eq_error (atomic_createPerson _ _ _) hcall]
        | ok person =>
          rcases call_createPerson_eq_ok hcall with ⟨hcommits, htakes, hperson, hadds, hsent⟩
          left
          refine ⟨payload, readPerson db' person, rfl, hbody, ?_, hcommits, htakes, ?_, hsent, ?_,
            rfl, ?_⟩
          . unfold permitted
            rw [hcheck]
            rfl
          . rw [hperson]
            rfl
          . exact in_of_createPerson hcall
          . rw [← hperson]
            exact hadds

theorem created_of_creates {read : PersonRead}
    (h : (request.createPerson deployment personCreate data serving).1.Creates read)
    : ∃ payload, Created deployment personCreate data
        (request.createPerson deployment personCreate data serving).2 request serving payload read := by
  rcases @createPerson_cases deployment personCreate data request serving with
    ⟨payload, read', hcreates, hcreated⟩ | ⟨hstatus, _⟩
  . rw [h.unique hcreates]
    exact ⟨payload, hcreated⟩
  . rw [h] at hstatus
    exact absurd hstatus (by decide : ¬400 ≤ 201)

theorem le_createPerson : data ≤ (request.createPerson deployment personCreate data serving).2 := by
  unfold createPerson
  split
  . apply ProtectedRequest.le_handle
  . split
    . exact le_refl data
    . split
      . exact le_refl data
      . exact le_refl data

theorem creates_iff_takes {payload : PersonCreate} (hbody : personCreate request.body = .ok payload)
    : (∃ read, (request.createPerson deployment personCreate data serving).1.Creates read)
        ↔
      request.permitted deployment data serving = true ∧ serving.commits = true
        ∧ payload.Takes data.database serving.id := by
  constructor
  . rintro ⟨read, hread⟩
    rcases created_of_creates hread with ⟨payload', hcreated⟩
    have hpayload := hcreated.body
    rw [hbody] at hpayload
    injection hpayload with hpayload
    rw [hpayload]
    exact ⟨hcreated.permitted, hcreated.commits, hcreated.takes⟩
  . rintro ⟨hpermitted, hcommits, htakes⟩
    rcases call_createPerson_of_takes htakes with ⟨db', hcall⟩
    rcases Except.isOk_iff.mp hpermitted with ⟨user, huser⟩
    refine ⟨readPerson db' (payload.person serving.id), ?_⟩
    unfold createPerson
    rw [hbody]
    dsimp only
    unfold ProtectedRequest.handle
    simp only [creation, Operation.permission, huser, Operation.handle, hcommits, hcall]
    rfl

end PostRequest

end Api
