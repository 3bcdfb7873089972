import Ketabdaneh.Api.Routes.Lemmas.Bodies
import Ketabdaneh.Web.People.PersonCreateForm

/-!
This module contains whom the requests of a page for a new person create, when answers are lost and
others use the API as well.
-/

namespace Web

open Api Python Submission Text

namespace Wire

variable (wire : Wire) {response : HttpResponse}

def succeeds (response : HttpResponse) : Bool :=
  (wire.receive response).isOk

/-- What pydantic does with a body of the right types. -/
structure Documented : Prop where
  keeps : ∀ {payload payload' : PersonCreate},
    wire.personCreate (Web.stringify payload) = .ok payload' → payload' = payload
  takes : ∀ {payload : PersonCreate}, encodable payload.name = true →
    (∀ phone ∈ payload.phone, encodable phone = true) → payload.roles.all encodable = true →
    wire.personCreate (Web.stringify payload) = .ok payload

variable {wire}

theorem succeeds_of_creates {read : PersonRead} (h : response.Creates read)
    : wire.succeeds response = true := by
  rw [h]
  rfl

theorem receive_of_status (h : 400 ≤ response.status)
    : ∃ error, wire.receive response = .error (.apiError error)
        ∧ error.kind = kindForStatus response.status := by
  have hok : (FetchResponse.of wire.stringify response).ok = false := by
    rw [FetchResponse.ok, decide_eq_false_iff_not]
    intro hstatus
    have hle : response.status ≤ 299 := hstatus.2
    omega
  unfold receive Web.receive
  simp only [hok, Bool.not_false, if_true]
  exact ⟨_, rfl, rfl⟩

theorem not_succeeds_of_status (h : 400 ≤ response.status) : wire.succeeds response = false := by
  rcases receive_of_status h with ⟨error, herror, _⟩
  unfold succeeds
  rw [herror]
  rfl

end Wire

namespace PersonCreateForm

variable {form form' : PersonCreateForm} {event : Event}

theorem user_eq_some {request : Option PostRequest} (h : form.user event = some (form', request))
    : (∃ item, event = .submit item ∧ (form', request) = form.handleSubmit item)
        ∨ form.submitting = false ∧ form.edit event = some form' ∧ request = none
        ∨ event = .link ∧ form' = { form with followed := true } ∧ request = none := by
  unfold user at h
  cases event with
  | link =>
    injection h with h
    injection h with hform hrequest
    exact Or.inr (Or.inr ⟨rfl, hform.symm, hrequest.symm⟩)
  | submit item =>
    dsimp only at h
    split at h
    . contradiction
    . rw [Option.some.injEq] at h
      exact Or.inl ⟨item, rfl, h.symm⟩
  | _ =>
    dsimp only at h
    split at h
    . contradiction
    . split at h
      . contradiction
      . next hsubmitting =>
        rw [Option.map_eq_some_iff] at h
        rcases h with ⟨edited, hedited, h⟩
        injection h with hform hrequest
        rw [Bool.not_eq_true] at hsubmitting
        rw [← hform]
        exact Or.inr (Or.inl ⟨hsubmitting, hedited, hrequest.symm⟩)

theorem handleSubmit_eq_some {item : Option Str} {request : PostRequest}
    (h : (form', some request) = form.handleSubmit item)
    : form.submitting = false ∧ form'.submitting = true ∧ form'.pushed = form.pushed
        ∧ form'.payload = form.payload ∧ trim form.name ≠ [] ∧ form'.roles = form.roles
        ∧ request.body = stringify form.payload := by
  unfold handleSubmit at h
  split at h
  . injection h with _ h
    contradiction
  . next hidle =>
    split at h
    . injection h with _ h
      contradiction
    . next hname =>
      injection h with hform hrequest
      injection hrequest with hrequest
      rw [hform, hrequest]
      rw [Bool.not_eq_true, Bool.or_eq_false_iff] at hidle
      exact ⟨hidle.1, rfl, rfl, rfl, hname, rfl, rfl⟩

theorem handleSubmit_eq_none {item : Option Str} (h : (form', none) = form.handleSubmit item)
    : form'.submitting = form.submitting ∧ form'.pushed = form.pushed
        ∧ form'.payload = form.payload ∧ form'.roles = form.roles := by
  unfold handleSubmit at h
  split at h
  . injection h with h
    rw [h]
    exact ⟨rfl, rfl, rfl, rfl⟩
  . split at h
    . injection h with h
      rw [h]
      exact ⟨rfl, rfl, rfl, rfl⟩
    . injection h with _ h
      contradiction

theorem edit_eq_some (h : form.edit event = some form')
    : form'.submitting = form.submitting ∧ form'.pushed = form.pushed
        ∧ form'.followed = form.followed ∧ event ≠ .link := by
  cases event with
  | link => contradiction
  | submit item => contradiction
  | toggleRole role =>
    rw [edit] at h
    split at h
    . injection h with h
      rw [← h]
      exact ⟨rfl, rfl, rfl, nofun⟩
    . contradiction
  | _ =>
    injection h with h
    rw [← h]
    exact ⟨rfl, rfl, rfl, nofun⟩

theorem followed_handleSubmit (form : PersonCreateForm) (item : Option Str)
    : (form.handleSubmit item).1.followed = form.followed := by
  unfold handleSubmit
  split
  . rfl
  . split
    . rfl
    . rfl

theorem followed_user {request : Option PostRequest} (h : form.user event = some (form', request))
    : form'.followed = true ↔ form.followed = true ∨ event = .link := by
  rcases user_eq_some h with ⟨item, hevent, h⟩ | ⟨_, h, _⟩ | ⟨hevent, h, _⟩
  . have hfollowed : form'.followed = form.followed := by
      rw [← followed_handleSubmit form item, ← h]
    simp [hevent, hfollowed]
  . rcases edit_eq_some h with ⟨_, _, hfollowed, hevent⟩
    simp [hevent, hfollowed]
  . simp [hevent, h]

theorem selected_toggleRole (code : Str) (h : form.selectedRoleCodes.Nodup)
    : (form.toggleRole code).selectedRoleCodes.Nodup
        ∧ ∀ other ∈ (form.toggleRole code).selectedRoleCodes,
          other ∈ form.selectedRoleCodes ∨ other = code := by
  unfold toggleRole
  dsimp only
  split
  . refine ⟨h.filter _, ?_⟩
    intro other hother
    exact Or.inl (List.mem_of_mem_filter hother)
  . next hnew =>
    rw [← List.concat_eq_append, List.nodup_concat]
    refine ⟨⟨hnew, h⟩, ?_⟩
    intro other hother
    rw [List.concat_eq_append, List.mem_append, List.mem_singleton] at hother
    exact hother

theorem failed_eq (error : ApiError)
    : ∃ nameError formError,
        form.failed error = { form with nameError, formError, submitting := false } := by
  unfold failed
  dsimp only
  split
  . split
    . exact ⟨_, _, rfl⟩
    . split
      . exact ⟨_, _, rfl⟩
      . exact ⟨_, _, rfl⟩
  . exact ⟨_, _, rfl⟩
  . exact ⟨_, _, rfl⟩

def waits (form : PersonCreateForm) : Bool :=
  form.submitting && !form.pushed

/-- Only the form that has sent a request is left. -/
def Valid (form : PersonCreateForm) : Prop :=
  form.pushed = true → form.submitting = true

theorem settle_waits (h : form.waits = true) (outcome : Except Thrown Unit)
    : (form.settle outcome).waits = false ∧ (form.settle outcome).pushed = outcome.isOk
        ∧ (form.settle outcome).Valid := by
  unfold waits at h
  rw [Bool.and_eq_true, Bool.not_eq_true'] at h
  cases outcome with
  | ok _ =>
    unfold waits Valid
    simp [settle, h.1, Except.isOk, Except.toBool]
  | error thrown =>
    rcases @failed_eq form thrown.toApiError with ⟨nameError, formError, hfailed⟩
    unfold waits Valid
    rw [settle, hfailed]
    simp [Except.isOk, Except.toBool, h.2]

end PersonCreateForm

namespace PersonCreatePage

theorem oneAtATime (wire : Wire)
    : (rules wire).OneAtATime PersonCreateForm.Valid PersonCreateForm.waits PersonCreateForm.pushed
        wire.succeeds where
  sends := by
    intro form event form' request hvalid h
    rcases PersonCreateForm.user_eq_some h with ⟨item, _, h⟩ | ⟨_, _, h⟩ | ⟨_, _, h⟩
    . rcases PersonCreateForm.handleSubmit_eq_some h with ⟨hidle, hsubmitting, hpushed, _⟩
      have hnot : form.pushed = false := by
        rw [← Bool.not_eq_true]
        intro h
        rw [hvalid h] at hidle
        contradiction
      unfold PersonCreateForm.waits
      rw [hidle, hsubmitting, hpushed, hnot]
      exact ⟨rfl, rfl, rfl, rfl⟩
    . contradiction
    . contradiction
  stays := by
    intro form event form' h
    unfold PersonCreateForm.waits
    rcases PersonCreateForm.user_eq_some h with ⟨item, _, h⟩ | ⟨_, h, _⟩ | ⟨_, h, _⟩
    . rcases PersonCreateForm.handleSubmit_eq_none h with ⟨hsubmitting, hpushed, _⟩
      rw [hsubmitting, hpushed]
      exact ⟨rfl, rfl⟩
    . rcases PersonCreateForm.edit_eq_some h with ⟨hsubmitting, hpushed, _⟩
      rw [hsubmitting, hpushed]
      exact ⟨rfl, rfl⟩
    . rw [h]
      exact ⟨rfl, rfl⟩
  hears := by
    intro form response h
    rcases PersonCreateForm.settle_waits h (wire.receive response) with ⟨hwaits, hpushed, _⟩
    exact ⟨hwaits, hpushed⟩
  abandons := by
    intro form loss h
    rcases PersonCreateForm.settle_waits h (receive loss.response) with ⟨hwaits, hpushed, _⟩
    rw [loss.fails] at hpushed
    exact ⟨hwaits, hpushed⟩
  valid_user := by
    intro form event form' request hvalid h
    rcases PersonCreateForm.user_eq_some h with ⟨item, _, h⟩ | ⟨_, h, _⟩ | ⟨_, h, _⟩
    . cases request with
      | none =>
        rcases PersonCreateForm.handleSubmit_eq_none h with ⟨hsubmitting, hpushed, _⟩
        unfold PersonCreateForm.Valid
        rw [hsubmitting, hpushed]
        exact hvalid
      | some request =>
        intro _
        exact (PersonCreateForm.handleSubmit_eq_some h).2.1
    . rcases PersonCreateForm.edit_eq_some h with ⟨hsubmitting, hpushed, _⟩
      unfold PersonCreateForm.Valid
      rw [hsubmitting, hpushed]
      exact hvalid
    . rw [h]
      exact hvalid
  valid_hear := by
    intro form response h
    exact (PersonCreateForm.settle_waits h _).2.2
  valid_abandon := by
    intro form loss h
    exact (PersonCreateForm.settle_waits h _).2.2

/-- Who was created is in the table, as it was sent. -/
def Stands (wire : Wire) (data : Data) (request : PostRequest) (response : HttpResponse) : Prop :=
  wire.succeeds response = true →
    ∃ payload read, wire.personCreate request.body = .ok payload ∧ response.Creates read
      ∧ read.AsSent payload ∧ (Resource.person read).In data.database

theorem Stands.mono {wire : Wire} {data data' : Data} {request : PostRequest}
    {response : HttpResponse} (h : Stands wire data request response) (hle : data ≤ data')
    : Stands wire data' request response := by
  intro hsucceeds
  rcases h hsucceeds with ⟨payload, read, hbody, hcreates, hsent, hin⟩
  exact ⟨payload, read, hbody, hcreates, hsent, hin.mono hle.2⟩

theorem le_apply (deployment : Deployment) (data : Data) (elsewhere : Elsewhere)
    : data ≤ elsewhere.apply deployment data := by
  cases elsewhere with
  | request other => apply ProtectedRequest.le_handle
  | write change => apply Data.le_write

theorem lasting (wire : Wire) : (rules wire).Lasting (Stands wire) where
  carriedOut := by
    intro data request serving hsucceeds
    rcases @PostRequest.createPerson_cases wire.deployment wire.personCreate data request serving
      with ⟨payload, read, hcreates, hcreated⟩ | ⟨hstatus, _⟩
    . exact ⟨payload, read, hcreated.body, hcreates, hcreated.sent, hcreated.shown⟩
    . have hfails := @Wire.not_succeeds_of_status wire _ hstatus
      have hsucceeds' := hsucceeds
      unfold rules at hsucceeds'
      rw [hfails] at hsucceeds'
      contradiction
  change := by
    intro data request response elsewhere h
    exact h.mono (le_apply wire.deployment data elsewhere)
  carryOut := by
    intro data request response request' serving h
    exact h.mono PostRequest.le_createPerson

/-- A new person gets an id that none of those who were created before has. -/
theorem fresh {wire : Wire} {data : Data} {request : PostRequest} {response : HttpResponse}
    (h : Stands wire data request response) {id : UUID} (hid : response.createdId = some id)
    (request' : PostRequest) (serving : Serving)
    : (request'.createPerson wire.deployment wire.personCreate data serving).1.createdId
        ≠ some id := by
  intro hnew
  rw [HttpResponse.createdId_eq_some] at hid hnew
  rcases hid with ⟨read, hcreates, hid⟩
  rcases hnew with ⟨read', hcreates', hid'⟩
  rcases h (Wire.succeeds_of_creates hcreates) with ⟨_, read'', _, hcreates'', _, hin⟩
  rw [hcreates.unique hcreates''] at hid
  rcases hin with ⟨person, hperson, hreadPerson⟩
  rcases PostRequest.created_of_creates hcreates' with ⟨payload, hcreated⟩
  apply hcreated.takes.fresh
  rw [← hcreated.id, hid', ← hid, ← hreadPerson]
  exact List.mem_map_of_mem hperson

/-- What the page offers and what its requests say. -/
structure Typed (roles : List Role) (form : PersonCreateForm) (requests : List PostRequest)
    : Prop where
  given : form.roles.getD [] = roles
  nodup : form.selectedRoleCodes.Nodup
  offered : form.selectedRoleCodes ⊆ roles.map Role.code
  -- while the form is submitting, the controls show what was sent
  submitting : form.submitting = true →
    requests.getLast?.map PostRequest.body = some (stringify form.payload)
  sent : ∀ request ∈ requests, ∃ payload, request.body = stringify payload ∧ payload.name ≠ []
    ∧ payload.roles.Nodup ∧ payload.roles ⊆ roles.map Role.code

variable {roles : List Role} {form form' : PersonCreateForm} {requests : List PostRequest}

theorem Typed.handleSubmit (h : Typed roles form requests) (item : Option Str)
    {request : Option PostRequest} (hsubmit : (form', request) = form.handleSubmit item)
    : Typed roles form' (requests ++ request.toList) := by
  cases request with
  | none =>
    rcases PersonCreateForm.handleSubmit_eq_none hsubmit with ⟨hsubmitting, _, hpayload, hroles⟩
    have hselected : form'.selectedRoleCodes = form.selectedRoleCodes :=
      congrArg PersonCreate.roles hpayload
    rw [Option.toList_none, List.append_nil]
    constructor
    . rw [hroles]
      exact h.given
    . rw [hselected]
      exact h.nodup
    . rw [hselected]
      exact h.offered
    . rw [hsubmitting, hpayload]
      exact h.submitting
    . exact h.sent
  | some request =>
    rcases PersonCreateForm.handleSubmit_eq_some hsubmit with
      ⟨_, _, _, hpayload, hname, hroles, hbody⟩
    have hselected : form'.selectedRoleCodes = form.selectedRoleCodes :=
      congrArg PersonCreate.roles hpayload
    rw [Option.toList_some]
    constructor
    . rw [hroles]
      exact h.given
    . rw [hselected]
      exact h.nodup
    . rw [hselected]
      exact h.offered
    . intro _
      rw [List.getLast?_concat, Option.map_some, hbody, hpayload]
    . rw [List.forall_mem_append, List.forall_mem_singleton]
      exact ⟨h.sent, form.payload, hbody, hname, h.nodup, h.offered⟩

theorem Typed.edit (h : Typed roles form requests) {event : PersonCreateForm.Event}
    (hidle : form.submitting = false) (hedit : form.edit event = some form')
    : Typed roles form' requests := by
  have hsubmitting : form'.submitting = false := by
    rw [(PersonCreateForm.edit_eq_some hedit).1, hidle]
  -- no request is awaited, so nothing is asked of what the controls show
  have hnot : form'.submitting = true →
      requests.getLast?.map PostRequest.body = some (stringify form'.payload) := by
    rw [hsubmitting]
    intro hfalse
    contradiction
  cases event with
  | link => contradiction
  | submit item => contradiction
  | toggleRole role =>
    rw [PersonCreateForm.edit] at hedit
    split at hedit
    . next hoffered =>
      injection hedit with hedit
      rw [h.given] at hoffered
      rw [← hedit] at hnot ⊢
      rcases PersonCreateForm.selected_toggleRole role.code h.nodup with ⟨hnodup, hmem⟩
      refine ⟨h.given, hnodup, ?_, hnot, h.sent⟩
      intro code hcode
      rcases hmem code hcode with hold | heq
      . exact h.offered hold
      . rw [heq]
        exact hoffered
    . contradiction
  | _ =>
    injection hedit with hedit
    rw [← hedit] at hnot ⊢
    exact ⟨h.given, h.nodup, h.offered, hnot, h.sent⟩

theorem Typed.settle (h : Typed roles form requests) (outcome : Except Thrown Unit)
    : Typed roles (form.settle outcome) requests := by
  cases outcome with
  | ok _ => exact ⟨h.given, h.nodup, h.offered, h.submitting, h.sent⟩
  | error thrown =>
    rcases @PersonCreateForm.failed_eq form thrown.toApiError with ⟨nameError, formError, hfailed⟩
    rw [PersonCreateForm.settle, hfailed]
    refine ⟨h.given, h.nodup, h.offered, ?_, h.sent⟩
    intro hsubmitting
    contradiction

theorem typed_of_step {wire : Wire} {page page' : PersonCreatePage} {action : Action}
    (h : Typed roles page.form page.requests) (hstep : step wire page action = some page')
    : Typed roles page'.form page'.requests := by
  rcases form_of_step hstep with ⟨event, request, huser, hrequests⟩ | ⟨hrequests, hform⟩
  . rw [hrequests]
    rcases PersonCreateForm.user_eq_some huser with ⟨item, _, hsubmit⟩ | ⟨hidle, hedit, hnone⟩
      | ⟨_, hform, hnone⟩
    . exact h.handleSubmit item hsubmit
    . rw [hnone, Option.toList_none, List.append_nil]
      exact h.edit hidle hedit
    . rw [hnone, hform, Option.toList_none, List.append_nil]
      exact ⟨h.given, h.nodup, h.offered, h.submitting, h.sent⟩
  . rw [hrequests]
    rcases hform with hform | ⟨response, hform⟩ | ⟨loss, hform⟩
    . rw [hform]
      exact h
    . rw [hform]
      exact h.settle _
    . rw [hform]
      exact h.settle _

variable {wire : Wire} {page page' : PersonCreatePage} {actions : List Action} {data : Data}

structure Keeps (wire : Wire) (roles : List Role) (page : PersonCreatePage) : Prop where
  turn : page.InTurn PersonCreateForm.Valid PersonCreateForm.waits PersonCreateForm.pushed
    wire.succeeds
  standing : page.Standing (Stands wire)
  distinct : page.Distinct HttpResponse.createdId
  typed : Typed roles page.form page.requests

theorem keeps_mount (data : Data) (given : Option (List Role))
    : Keeps wire (given.getD []) (mount data given) where
  turn := by
    apply Page.InTurn.start
    . intro h
      contradiction
    . rfl
  standing := by
    intro sent hsent
    contradiction
  distinct := List.nodup_nil
  typed := by
    refine ⟨rfl, List.nodup_nil, List.nil_subset _, ?_, ?_⟩
    . intro h
      contradiction
    . intro request hrequest
      contradiction

theorem keeps_step {action : Action} (h : Keeps wire roles page)
    (hstep : step wire page action = some page') : Keeps wire roles page' where
  turn := inTurn_of_step (oneAtATime wire) h.turn hstep
  standing := standing_of_step (lasting wire) h.standing hstep
  distinct := by
    apply distinct_of_step _ h.standing h.distinct hstep
    intro data request response request' serving id hstands hid
    exact fresh hstands hid request' serving
  typed := typed_of_step h.typed hstep

theorem keeps_run {given : Option (List Role)}
    (hrun : Transition.run (step wire) (mount data given) actions = some page)
    : Keeps wire (given.getD []) page :=
  Transition.run_keeps (fun _ _ _ => keeps_step) (keeps_mount data given) hrun

theorem followed_settle (form : PersonCreateForm) (outcome : Except Thrown Unit)
    : (form.settle outcome).followed = form.followed := by
  cases outcome with
  | ok _ => rfl
  | error thrown =>
    rcases @PersonCreateForm.failed_eq form thrown.toApiError with ⟨nameError, formError, hfailed⟩
    rw [PersonCreateForm.settle, hfailed]

theorem followed_of_run {given : Option (List Role)}
    (hrun : Transition.run (step wire) (mount data given) actions = some page)
    : page.form.followed = true ↔ .user .link ∈ actions := by
  have hcaused := @caused_of_run _ _ _ _ _ _ _ _ (rules wire) (mount data given) page
    (fun form => form.followed = true) (fun event => event = .link)
    (fun h => PersonCreateForm.followed_user h)
    (fun form response => by simp only [rules, followed_settle])
    (fun form loss => by simp only [rules, followed_settle]) actions hrun
  rw [hcaused]
  constructor
  . rintro (hstart | ⟨event, hevent, rfl⟩)
    . contradiction
    . exact hevent
  . intro hevent
    exact Or.inr ⟨_, hevent, rfl⟩

/-- The person was created by another request. -/
def CreatedBy (person : Person) (elsewhere : Elsewhere) : Prop :=
  ∃ other payload commits, elsewhere = .request other
    ∧ other.operation = .createPerson payload person.id commits

theorem createdBy_of_apply {deployment : Deployment} {elsewhere : Elsewhere} {person : Person}
    (h : person ∈ (elsewhere.apply deployment data).database.persons.rows)
    : person ∈ data.database.persons.rows ∨ CreatedBy person elsewhere := by
  cases elsewhere with
  | write change =>
    rw [Elsewhere.apply, database_write] at h
    exact Or.inl h
  | request other =>
    rw [Elsewhere.apply] at h
    cases hcreates : other.creates deployment data with
    | false =>
      rw [other.handle_of_not_creates deployment data hcreates] at h
      exact Or.inl h
    | true =>
      rcases other.handle_of_creates deployment data hcreates with ⟨row, hrow, hadds⟩
      rw [hadds.persons, List.mem_append] at h
      apply h.imp_right
      intro hnew
      -- of all operations, only one adds to the people
      rw [ProtectedRequest.row, Option.bind_eq_some_iff] at hrow
      rcases hrow with ⟨call, hcall, hrow⟩
      cases hoperation : other.operation with
      | createPerson payload id commits =>
        rw [hoperation, Operation.creation, Option.some.injEq] at hcall
        rw [← hcall, Call.row, Option.some.injEq] at hrow
        rw [← hrow, NewRow.persons, List.mem_singleton] at hnew
        rw [hnew]
        exact ⟨other, payload, commits, rfl, hoperation⟩
      | createEvent payload id commits =>
        rw [hoperation, Operation.creation, Option.some.injEq] at hcall
        rw [← hcall, Call.row, Option.some.injEq] at hrow
        rw [← hrow] at hnew
        contradiction
      | createEventAssignment payload id commits =>
        rw [hoperation, Operation.creation, Option.some.injEq] at hcall
        rw [← hcall, Call.row, Option.map_eq_some_iff] at hrow
        rcases hrow with ⟨responsibility, _, hrow⟩
        rw [← hrow] at hnew
        contradiction
      | _ =>
        rw [hoperation] at hcall
        contradiction

theorem created_of_carryOut {request : PostRequest} {serving : Serving} {person : Person}
    (h : person ∈ (request.createPerson wire.deployment wire.personCreate data
      serving).2.database.persons.rows)
    : person ∈ data.database.persons.rows
        ∨ (request.createPerson wire.deployment wire.personCreate data serving).1.createdId
          = some person.id := by
  rcases @PostRequest.createPerson_cases wire.deployment wire.personCreate data request serving with
    ⟨payload, read, hcreates, hcreated⟩ | ⟨_, hsame⟩
  . rcases hcreated.adds with ⟨links, hadds⟩
    rw [hadds.persons, List.mem_append] at h
    apply h.imp_right
    intro hnew
    rw [NewRow.persons, List.mem_singleton] at hnew
    rw [HttpResponse.createdId_eq_some]
    refine ⟨read, hcreates, ?_⟩
    rw [hcreated.id, hnew]
    rfl
  . rw [hsame] at h
    exact Or.inl h

/--
Whom the requests of a page have created, and what the page knows of it. An answer that was lost is
one that the page has not heard.
-/
structure Creations (wire : Wire) (start : Data) (actions : List Action) (page : PersonCreatePage)
    : Prop where
  -- the form goes to the list when its last request has created the person on the screen
  pushed : page.form.pushed = true ↔ ∃ sent response read, page.sent.getLast? = some sent
    ∧ sent.wait = .heard ∧ sent.answer = some response ∧ response.Creates read
  -- otherwise only a link leads there
  followed : page.form.followed = true ↔ .user .link ∈ actions
  screen : page.form.pushed = true → ∀ sent response read, page.sent.getLast? = some sent →
    sent.answer = some response → response.Creates read → read.AsSent page.form.payload
  -- everybody who was created is on every list from then on, as sent
  created : ∀ sent ∈ page.sent, ∀ response read, sent.answer = some response →
    response.Creates read → ∃ payload, sent.request.body = stringify payload ∧ read.AsSent payload
      ∧ ∀ other : ProtectedRequest, other.operation = .listPersons → ∀ list,
        (other.handle wire.deployment page.store).1 = .ok list →
          (Resource.person read).Shown list.body
  distinct : (page.sent.filterMap fun sent => sent.answer.bind HttpResponse.createdId).Nodup
  -- while nothing is awaited, only requests that the page gave up have created anybody
  unknown : page.form.submitting = false → ∀ sent ∈ page.sent, ∀ response read,
    sent.answer = some response → response.Creates read → sent.wait = .abandoned
  origin : ∀ person ∈ page.store.database.persons.rows, person ∈ start.database.persons.rows
    ∨ (∃ sent ∈ page.sent, sent.answer.bind HttpResponse.createdId = some person.id)
    ∨ ∃ elsewhere, .elsewhere elsewhere ∈ actions ∧ CreatedBy person elsewhere

theorem Keeps.pushed_iff (h : Keeps wire roles page)
    : page.form.pushed = true
        ↔
      ∃ sent response read, page.sent.getLast? = some sent ∧ sent.wait = .heard
        ∧ sent.answer = some response ∧ response.Creates read := by
  constructor
  . intro hpushed
    rcases h.turn.left hpushed with ⟨i, sent, hsent, hheard, hlast⟩
    rcases h.turn.heard hsent hheard with ⟨response, hanswer, hsucceeds⟩
    rcases h.standing sent (List.mem_of_getElem? hsent) response hanswer
      (hsucceeds.mpr ⟨hlast, hpushed⟩) with ⟨_, read, _, hcreates, _⟩
    refine ⟨sent, response, read, ?_, hheard, hanswer, hcreates⟩
    rw [List.getLast?_eq_getElem?, ← hlast, Nat.add_sub_cancel]
    exact hsent
  . rintro ⟨sent, response, read, hsent, hheard, hanswer, hcreates⟩
    rw [List.getLast?_eq_getElem?] at hsent
    rcases h.turn.heard hsent hheard with ⟨response', hanswer', hsucceeds⟩
    rw [hanswer, Option.some.injEq] at hanswer'
    rw [← hanswer'] at hsucceeds
    exact (hsucceeds.mp (Wire.succeeds_of_creates hcreates)).2

theorem Keeps.as_sent (h : Keeps wire roles page) (hwire : wire.Documented)
    {sent : Sent PostRequest HttpResponse} (hsent : sent ∈ page.sent) {response : HttpResponse}
    (hanswer : sent.answer = some response) {read : PersonRead} (hcreates : response.Creates read)
    {payload : PersonCreate} (hbody : sent.request.body = stringify payload)
    : read.AsSent payload ∧ (Resource.person read).In page.store.database := by
  rcases h.standing sent hsent response hanswer (Wire.succeeds_of_creates hcreates) with
    ⟨payload', read', hread, hcreates', hassent, hin⟩
  rw [hbody] at hread
  rw [hcreates.unique hcreates', ← hwire.keeps hread]
  exact ⟨hassent, hin⟩

theorem Keeps.screen (h : Keeps wire roles page) (hwire : wire.Documented)
    (hpushed : page.form.pushed = true) {sent : Sent PostRequest HttpResponse}
    (hsent : page.sent.getLast? = some sent) {response : HttpResponse}
    (hanswer : sent.answer = some response) {read : PersonRead} (hcreates : response.Creates read)
    : read.AsSent page.form.payload := by
  have hbody := h.typed.submitting (h.turn.valid hpushed)
  unfold Page.requests at hbody
  rw [List.getLast?_map, hsent, Option.map_some, Option.map_some, Option.some.injEq] at hbody
  exact (h.as_sent hwire (List.mem_of_getLast? hsent) hanswer hcreates hbody).1

theorem Keeps.unknown (h : Keeps wire roles page) (hidle : page.form.submitting = false)
    {sent : Sent PostRequest HttpResponse} (hsent : sent ∈ page.sent) {response : HttpResponse}
    (hanswer : sent.answer = some response) {read : PersonRead} (hcreates : response.Creates read)
    : sent.wait = .abandoned := by
  apply h.turn.abandoned _ _ hsent
  . rw [hanswer]
    exact Wire.succeeds_of_creates hcreates
  . rw [PersonCreateForm.waits, hidle, Bool.false_and]
  . rw [← Bool.not_eq_true]
    intro hpushed
    rw [h.turn.valid hpushed] at hidle
    contradiction

theorem origin {given : Option (List Role)}
    (hrun : Transition.run (step wire) (mount data given) actions = some page) {person : Person}
    (hperson : person ∈ page.store.database.persons.rows)
    : person ∈ data.database.persons.rows
        ∨ (∃ sent ∈ page.sent, sent.answer.bind HttpResponse.createdId = some person.id)
        ∨ ∃ elsewhere, .elsewhere elsewhere ∈ actions ∧ CreatedBy person elsewhere := by
  have hcases := @origin_of_run _ _ _ _ _ _ _ _ (rules wire) (mount data given) page Person
    (fun store person => person ∈ store.database.persons.rows)
    (fun response person => response.createdId = some person.id)
    (fun elsewhere person => CreatedBy person elsewhere)
    (fun _ h => createdBy_of_apply h) (fun _ _ h => created_of_carryOut h) actions hrun person
    hperson
  rcases hcases with hstart | ⟨sent, hsent, response, hanswer, hid⟩ | hothers
  . exact Or.inl hstart
  . refine Or.inr (Or.inl ⟨sent, hsent, ?_⟩)
    rw [hanswer]
    exact hid
  . exact Or.inr (Or.inr hothers)

theorem creations_of_run (hwire : wire.Documented) (data : Data) (given : Option (List Role))
    (hrun : Transition.run (step wire) (mount data given) actions = some page)
    : Creations wire data actions page := by
  have hkeeps := keeps_run hrun
  constructor
  . exact hkeeps.pushed_iff
  . exact followed_of_run hrun
  . intro hpushed sent response read hsent hanswer hcreates
    exact hkeeps.screen hwire hpushed hsent hanswer hcreates
  . intro sent hsent response read hanswer hcreates
    rcases hkeeps.typed.sent sent.request (List.mem_map_of_mem hsent) with ⟨payload, hbody, _⟩
    rcases hkeeps.as_sent hwire hsent hanswer hcreates hbody with ⟨hassent, hin⟩
    refine ⟨payload, hbody, hassent, ?_⟩
    intro other hasked list hlist
    exact ((other.shown_of_in hin hasked).2 list hlist).2
  . exact hkeeps.distinct
  . intro hidle sent hsent response read hanswer hcreates
    exact hkeeps.unknown hidle hsent hanswer hcreates
  . intro person hperson
    exact origin hrun hperson

def textOf : Json → Option Str
  | .str s => some s
  | _ => none

/-- Reads the four members of a body, wherever they stand. -/
def plainPersonCreate : Json → Except (List ValidationIssue) PersonCreate
  | .obj members =>
    match members.lookup (ofString "name"), members.lookup (ofString "phone"),
      members.lookup (ofString "active"), members.lookup (ofString "roles") with
    | some (.str name), some phone, some (.bool active), some (.arr roles) =>
      .ok ⟨name, textOf phone, active, roles.filterMap textOf⟩
    | _, _, _, _ => .error []
  | _ => .error []

def plainWire : Wire where
  deployment := plainDeployment
  personCreate := plainPersonCreate
  stringify _ := []

theorem plainPersonCreate_stringify (payload : PersonCreate)
    : plainPersonCreate (stringify payload) = .ok payload := by
  have hroles : (payload.roles.map Json.str).filterMap textOf = payload.roles := by
    rw [List.filterMap_map]
    exact List.filterMap_some
  have hphone : textOf (payload.phone.elim .null .str) = payload.phone := by
    cases payload.phone with
    | none => rfl
    | some phone => rfl
  have hread : plainPersonCreate (stringify payload) =
      .ok ⟨payload.name, textOf (payload.phone.elim .null .str), payload.active,
        (payload.roles.map Json.str).filterMap textOf⟩ := rfl
  rw [hread, hroles, hphone]

theorem documented_plainWire : plainWire.Documented where
  keeps := by
    intro payload payload' h
    have hread : plainPersonCreate (stringify payload) = .ok payload' := h
    rw [plainPersonCreate_stringify] at hread
    injection hread with hread
    exact hread.symm
  takes _ _ _ := plainPersonCreate_stringify _

def coach : Role :=
  ⟨7, ofString "coach", ofString "Coach"⟩

/-- The operator may create people, who may be coaches. -/
def branch : Data where
  accounts := registrars.accounts
  database := Seed.database { bare with
    roles := ⟨[coach], List.nodup_singleton _⟩
    uq_roles_code := List.nodup_singleton _
    uq_roles_name := List.nodup_singleton _
  }

def serving (id : UUID) : Serving where
  jwt := operatorJwt
  settings := operatorSettings
  id
  commits := true

/-- The first answer is lost, and the person is sent once more. -/
def sentTwice : List Action := [
  .user (.name (ofString " Mina ")),
  .user (.toggleRole coach),
  .user (.submit (some operatorToken)),
  .carryOut 0 (serving 5),
  .abandon 0 ⟨none, rfl⟩,
  .user (.submit (some operatorToken)),
  .carryOut 1 (serving 6),
  .hear 1
]

theorem creations_sentTwice :
    ∃ page, Transition.run (step plainWire) (mount branch (some [coach])) sentTwice = some page
      ∧ page.form.pushed = true ∧ page.store.database.persons.rows.map Person.id = [5, 6]
      ∧ Creations plainWire branch sentTwice page := by
  have hrun : ((Transition.run (step plainWire) (mount branch (some [coach])) sentTwice).any
      fun page => page.form.pushed
        ∧ page.store.database.persons.rows.map Person.id = [5, 6]) = true := by
    decide +kernel
  rw [Option.any_eq_true] at hrun
  rcases hrun with ⟨page, hpage, hends⟩
  rw [decide_eq_true_iff] at hends
  exact ⟨page, hpage, hends.1, hends.2,
    creations_of_run documented_plainWire branch (some [coach]) hpage⟩

theorem le_store (hrun : Transition.run (step wire) page actions = some page')
    : page.store ≤ page'.store := by
  apply le_of_run _ _ hrun
  . intro data elsewhere
    exact le_apply wire.deployment data elsewhere
  . intro data request serving
    exact PostRequest.le_createPerson

theorem known_of_run
    (hrun : Transition.run (step wire)
      (mount data (some (listRoles wire.deployment.collate data.database))) actions = some page)
    {request : PostRequest} (hrequest : request ∈ page.requests)
    : ∃ payload, request.body = stringify payload ∧ payload.name ≠ [] ∧ payload.roles.Nodup
        ∧ ∀ code ∈ payload.roles, page.store.database.HasRole code
          ∧ ∃ role ∈ data.database.roles.rows, role.code = code := by
  rcases (keeps_run hrun).typed.sent request hrequest with ⟨payload, hbody, hname, hnodup, hoffered⟩
  refine ⟨payload, hbody, hname, hnodup, ?_⟩
  intro code hcode
  rcases List.mem_map.mp (hoffered hcode) with ⟨role, hrole, heq⟩
  have hrow : role ∈ data.database.roles.rows := (List.mergeSort_perm _ _).mem_iff.mp hrole
  refine ⟨⟨role, ?_, heq⟩, role, hrow, heq⟩
  -- nothing in the API adds or removes a role
  rw [(le_store hrun).2.grows.roles]
  exact hrow

theorem readable_of_storable (hwire : wire.Documented) {payload : PersonCreate}
    (htexts : payload.HasStorableTexts) (hcodes : ∀ code ∈ payload.roles, storable code = true)
    : wire.personCreate (stringify payload) = .ok payload := by
  have hencodable : ∀ {s : Str}, storable s = true → encodable s = true := by
    intro s h
    exact (Bool.and_eq_true_iff.mp h).1
  apply hwire.takes
  . exact hencodable htexts.1
  . intro phone hphone
    exact hencodable (htexts.2 phone hphone)
  . rw [List.all_eq_true]
    intro code hcode
    exact hencodable (hcodes code hcode)

/--
With the roles that the API listed, no request of the page is turned down for its roles. The codes
of roles in a table are texts that can be stored.
-/
theorem createsPerson_iff (hwire : wire.Documented) (data : Data)
    (hcodes : ∀ role ∈ data.database.roles.rows, storable role.code = true)
    (hrun : Transition.run (step wire)
      (mount data (some (listRoles wire.deployment.collate data.database))) actions = some page)
    {request : PostRequest} (hrequest : request ∈ page.requests) (serving : Serving)
    : ∃ payload, request.body = stringify payload ∧ payload.name ≠ [] ∧ payload.roles.Nodup
        ∧ ((∃ read,
            (request.createPerson wire.deployment wire.personCreate page.store
              serving).1.Creates read)
              ↔
            request.permitted wire.deployment page.store serving = true ∧ serving.commits = true
              ∧ payload.HasStorableTexts
              ∧ serving.id ∉ page.store.database.persons.rows.map Person.id) := by
  rcases known_of_run hrun hrequest with ⟨payload, hbody, hname, hnodup, hknown⟩
  refine ⟨payload, hbody, hname, hnodup, ?_⟩
  have hstorable : ∀ code ∈ payload.roles, storable code = true := by
    intro code hcode
    rcases (hknown code hcode).2 with ⟨role, hrole, heq⟩
    rw [← heq]
    exact hcodes role hrole
  constructor
  . rintro ⟨read, hcreates⟩
    rcases PostRequest.created_of_creates hcreates with ⟨payload', hcreated⟩
    have hread := hcreated.body
    rw [hbody] at hread
    rw [hwire.keeps hread] at hcreated
    exact ⟨hcreated.permitted, hcreated.commits, hcreated.takes.texts, hcreated.takes.fresh⟩
  . rintro ⟨hpermitted, hcommits, htexts, hfresh⟩
    have hread : wire.personCreate request.body = .ok payload := by
      rw [hbody]
      exact readable_of_storable hwire htexts hstorable
    rw [PostRequest.creates_iff_takes hread]
    refine ⟨hpermitted, hcommits, htexts, ?_, ?_, hfresh⟩
    . rw [List.all_eq_true]
      intro code hcode
      exact hstorable code (List.mem_eraseDups.mp hcode)
    . intro code hcode
      exact (hknown code hcode).1

theorem createsPerson_sentTwice :
    ∃ page request, Transition.run (step plainWire)
        (mount branch (some (listRoles plainWire.deployment.collate branch.database))) sentTwice
          = some page
      ∧ request ∈ page.requests
      ∧ ∃ payload, request.body = stringify payload ∧ payload.name ≠ [] ∧ payload.roles.Nodup
        ∧ ((∃ read, (request.createPerson plainDeployment plainPersonCreate page.store
              (serving 8)).1.Creates read)
            ↔
          request.permitted plainDeployment page.store (serving 8) = true
            ∧ (serving 8).commits = true ∧ payload.HasStorableTexts
            ∧ (serving 8).id ∉ page.store.database.persons.rows.map Person.id) := by
  have hlist : listRoles plainWire.deployment.collate branch.database = [coach] :=
    List.mergeSort_singleton coach
  have hrun : ((Transition.run (step plainWire) (mount branch (some [coach])) sentTwice).any
      fun page => page.requests.head?.isSome) = true := by
    decide +kernel
  rw [Option.any_eq_true] at hrun
  rcases hrun with ⟨page, hpage, hsome⟩
  rcases Option.isSome_iff_exists.mp hsome with ⟨request, hrequest⟩
  rw [← hlist] at hpage
  have hcodes : ∀ role ∈ branch.database.roles.rows, storable role.code = true := by
    intro role hrole
    rw [List.mem_singleton.mp hrole]
    decide
  have hmem := List.mem_of_mem_head? hrequest
  exact ⟨page, request, hpage, hmem,
    createsPerson_iff documented_plainWire branch hcodes hpage hmem (serving 8)⟩

end PersonCreatePage

end Web
