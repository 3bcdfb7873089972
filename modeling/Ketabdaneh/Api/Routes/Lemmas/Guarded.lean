import Ketabdaneh.Api.Routes.Lemmas.Creations

/-!
This module contains what the permission checks come to when requests are served beside one another
while users and grants are added.
-/

namespace Api

open Text Transaction

/-- Whoever is current stays current, if with another hash. -/
theorem getCurrentUser_mono {jwt : PyJWT} {settings : AuthSettings}
    {credentials : Option HTTPAuthorizationCredentials} {a b : Accounts} {user : User}
    (h : getCurrentUser jwt settings credentials a = .ok user) (hle : a.Extends b)
    : ∃ user', getCurrentUser jwt settings credentials b = .ok user' ∧ user'.id = user.id := by
  unfold getCurrentUser at h ⊢
  cases credentials with
  | none => contradiction
  | some credentials =>
    dsimp only at h ⊢
    split at h
    . contradiction
    . next hscheme =>
      rw [if_neg hscheme]
      cases hsubject : resolveTokenSubject jwt settings credentials.credentials with
      | error e =>
        rw [hsubject] at h
        cases e <;> contradiction
      | ok subject =>
        rw [hsubject] at h
        dsimp only at h ⊢
        cases hid : Python.uuid subject with
        | none =>
          rw [hid] at h
          contradiction
        | some userId =>
          rw [hid] at h
          dsimp only at h ⊢
          cases hget : a.users.get? userId with
          | none =>
            rw [hget] at h
            contradiction
          | some found =>
            rw [hget] at h
            dsimp only at h
            split at h
            . next hactive =>
              injection h with h
              rcases hle.get?_user hget with ⟨user', hget', hid', hactive'⟩
              refine ⟨user', ?_, ?_⟩
              . rw [hget']
                dsimp only
                rw [hactive', if_pos hactive]
              . rw [hid', h]
            . contradiction

theorem Operation.handle_raises {operation : Operation} {collate : Collation} {db : Database}
    {e : HTTPException} (h : (operation.handle collate db).1 = .error (.http e))
    : e.status = 404 ∨ e.status = 422 := by
  have hraised : ∀ {detail : String}, Raised.notFound detail = .http e → e.status = 404 := by
    intro detail h
    injection h with h
    rw [← h]
  have hrejected : ∀ {detail : Str}, Raised.unprocessable detail = .http e → e.status = 422 := by
    intro detail h
    injection h with h
    rw [← h]
  have hunhandled : (.error .unhandled : Except Raised Response) ≠ .error (.http e) := by simp
  cases operation with
  | listRoles => contradiction
  | listPersons => contradiction
  | createPerson payload id commits =>
    rw [handle] at h
    split at h
    . contradiction
    . next error _ _ =>
      injection h with h
      cases error with
      | unknownRole codes => exact Or.inr (hrejected h)
      | _ => contradiction
  | listEvents =>
    rw [handle] at h
    split at h
    . contradiction
    . exact absurd h hunhandled
  | getEvent id =>
    rw [handle] at h
    split at h
    . contradiction
    . injection h with h
      exact Or.inl (hraised h)
    . exact absurd h hunhandled
  | createEvent payload id commits =>
    rw [handle] at h
    split at h
    . contradiction
    . exact absurd h hunhandled
  | listEventAssignments => contradiction
  | getEventAssignment id =>
    rw [handle] at h
    split at h
    . contradiction
    . injection h with h
      exact Or.inl (hraised h)
  | createEventAssignment payload id commits =>
    rw [handle] at h
    split at h
    . split at h
      . contradiction
      . exact absurd h hunhandled
    . next error _ _ =>
      injection h with h
      cases error with
      | eventNotFound id => exact Or.inl (hraised h)
      | personNotFound id => exact Or.inl (hraised h)
      | unknownResponsibility code => exact Or.inr (hrejected h)
      | _ => contradiction

namespace ProtectedRequest

variable (deployment : Deployment)

/-- The check before the operation. -/
def check (db : Accounts) (request : ProtectedRequest) : Except Raised User :=
  requirePermission request.operation.permission request.jwt request.settings deployment.httpBearer
    request.header db

def permitted (db : Accounts) (request : ProtectedRequest) : Bool :=
  (request.check deployment db).isOk

variable {deployment} {a b : Accounts} {request : ProtectedRequest}

theorem permitted_iff
    : request.permitted deployment a = true ↔ ∃ user, request.check deployment a = .ok user := by
  unfold permitted
  cases request.check deployment a with
  | error raised => simp [Except.isOk, Except.toBool]
  | ok user => simp [Except.isOk, Except.toBool]

/-- Nobody loses a permission. -/
theorem permitted_mono (h : request.permitted deployment a = true) (hle : a.Extends b)
    : request.permitted deployment b = true := by
  rw [permitted_iff] at h ⊢
  rcases h with ⟨user, h⟩
  unfold check requirePermission at h
  cases huser : getCurrentUser request.jwt request.settings (deployment.httpBearer request.header) a with
  | error e =>
    rw [huser] at h
    contradiction
  | ok current =>
    rw [huser] at h
    simp only [bind, Except.bind] at h
    split at h
    . next hpermitted =>
      rcases getCurrentUser_mono huser hle with ⟨user', huser', hid⟩
      refine ⟨user', ?_⟩
      unfold check requirePermission
      rw [huser']
      simp only [bind, Except.bind]
      rw [userHasPermission_of_id hid, if_pos (hle.userHasPermission hpermitted)]
      rfl
    . contradiction

theorem not_permitted_of_extends (h : request.permitted deployment b = false) (hle : a.Extends b)
    : request.permitted deployment a = false := by
  rw [← Bool.not_eq_true] at h ⊢
  intro hpermitted
  exact h (permitted_mono hpermitted hle)

variable {data : Data}

theorem handle_of_permitted (h : request.permitted deployment data.accounts = true)
    : (request.handle deployment data).1
        =
      (request.operation.handle deployment.collate data.database).1 := by
  rw [permitted_iff] at h
  rcases h with ⟨user, h⟩
  unfold check at h
  unfold handle
  rw [h]

theorem handle_of_not_permitted (h : request.permitted deployment data.accounts = false)
    : ∃ raised, request.check deployment data.accounts = .error raised
        ∧ request.handle deployment data = (.error raised, data) := by
  cases hcheck : request.check deployment data.accounts with
  | ok user =>
    rw [← Bool.not_eq_true, permitted_iff] at h
    exact absurd ⟨user, hcheck⟩ h
  | error raised =>
    refine ⟨raised, rfl, ?_⟩
    unfold check at hcheck
    unfold handle
    rw [hcheck]

end ProtectedRequest

section

variable {ι : Type} (deployment : Deployment) (requests : ι → ProtectedRequest)

/-- A write, or a request that is permitted in these tables. -/
def keeps (db : Accounts) : Action ι AccountWrite → Bool
  | .statement i => (requests i).permitted deployment db
  | .change _ => true

/-- What is not permitted in the end did nothing. -/
theorem afterAll_filter {data : Data} {actions : List (Action ι AccountWrite)} {db : Accounts}
    (h : (data.afterAll deployment requests actions).accounts.Extends db)
    : data.afterAll deployment requests (actions.filter (keeps deployment requests db))
        =
      data.afterAll deployment requests actions := by
  induction actions generalizing data with
  | nil => rfl
  | cons action actions ih =>
    rw [List.filter_cons]
    split
    . exact ih h
    . next hkeeps =>
      cases action with
      | change write => exact absurd rfl hkeeps
      | statement i =>
        rw [Bool.not_eq_true] at hkeeps
        have hle := (le_afterAll deployment requests data (.statement i :: actions)).1.trans h
        rcases ProtectedRequest.handle_of_not_permitted
          (ProtectedRequest.not_permitted_of_extends hkeeps hle) with ⟨raised, _, hhandle⟩
        have hcons : data.afterAll deployment requests (.statement i :: actions)
            = data.afterAll deployment requests actions := by
          rw [Data.afterAll, List.foldl_cons, Data.after, hhandle]
          rfl
        rw [hcons] at h ⊢
        exact ih h

/--
The tables and the answers of those who are permitted in the end come about without the others, who
learn nothing but what the tables of the users say of them.
-/
structure Confines (data : Data) (schedule : List (Action ι AccountWrite))
    (w : System ι Data NewRow Empty Raised Response) (order : List (Action ι AccountWrite)) : Prop where
  store : w.store = data.afterAll deployment requests order
  writes : order.filterMap Action.change? = schedule.filterMap Action.change?
  permitted : ∀ i, .statement i ∈ order → (requests i).permitted deployment w.store.accounts = true
  answered : ∀ i, .statement i ∈ schedule → (w.sessions i).outcome ≠ none →
    (requests i).permitted deployment w.store.accounts = true → .statement i ∈ order
  answer : ∀ before i after answer, order = before ++ .statement i :: after →
    (w.sessions i).outcome = some answer →
    ((requests i).handle deployment (data.afterAll deployment requests before)).1 = answer
  refused : ∀ i answer, (w.sessions i).outcome = some answer →
    (requests i).permitted deployment w.store.accounts = false →
    ∃ writes raised, writes <+: schedule.filterMap Action.change?
      ∧ (requests i).check deployment (writes.foldl Data.write data).accounts = .error raised
      ∧ answer = .error raised

variable {deployment requests}

theorem Serializes.confines {data : Data} {schedule order : List (Action ι AccountWrite)}
    {w : System ι Data NewRow Empty Raised Response}
    (h : Serializes deployment requests data schedule w order)
    (hstart : ∀ i, .statement i ∉ schedule →
      w.sessions i = { program := (requests i).statements deployment })
    : Confines deployment requests data schedule w
        (order.filter (keeps deployment requests w.store.accounts)) := by
  have hfilter : ∀ before after, order = before ++ after →
      data.afterAll deployment requests (before.filter (keeps deployment requests w.store.accounts))
        = data.afterAll deployment requests before := by
    intro before after hsplit
    apply afterAll_filter
    rw [h.store, hsplit, Data.afterAll, Data.afterAll, List.foldl_append]
    exact (le_afterAll deployment requests _ after).1
  constructor
  . rw [hfilter order [] (List.append_nil order).symm]
    exact h.store
  . rw [← h.writes, List.filterMap_filter]
    apply List.filterMap_congr
    intro action _
    cases action with
    | change write => rfl
    | statement i =>
      split
      . rfl
      . rfl
  . intro i hi
    exact (List.mem_filter.mp hi).2
  . intro i hi hanswered hpermitted
    exact List.mem_filter.mpr ⟨h.answered i hi hanswered, hpermitted⟩
  . intro before i after answer hsplit hanswer
    rw [List.filter_eq_append_iff] at hsplit
    rcases hsplit with ⟨before', rest, horder, hbefore, hrest⟩
    rw [List.filter_eq_cons_iff] at hrest
    rcases hrest with ⟨dropped, after', hrest, hdropped, _, _⟩
    have hwhole : order = (before' ++ dropped) ++ .statement i :: after' := by
      rw [horder, hrest, List.append_assoc]
    have hsame : before = (before' ++ dropped).filter (keeps deployment requests w.store.accounts) := by
      rw [List.filter_append, hbefore, List.filter_eq_nil_iff.mpr hdropped, List.append_nil]
    rw [hsame, hfilter _ _ hwhole]
    exact h.answer _ i _ answer hwhole hanswer
  . intro i answer hanswer hnot
    by_cases hi : .statement i ∈ schedule
    . have hplace := h.answered i hi (by rw [hanswer]; apply Option.some_ne_none)
      rcases List.append_of_mem hplace with ⟨before, after, hsplit⟩
      have hthen := h.answer before i after answer hsplit hanswer
      have hle : (data.afterAll deployment requests before).accounts.Extends w.store.accounts := by
        rw [h.store, hsplit, Data.afterAll, Data.afterAll, List.foldl_append]
        exact (le_afterAll deployment requests _ (.statement i :: after)).1
      rcases ProtectedRequest.handle_of_not_permitted
        (ProtectedRequest.not_permitted_of_extends hnot hle) with ⟨raised, hcheck, hhandle⟩
      refine ⟨before.filterMap Action.change?, raised, ?_, ?_, ?_⟩
      . rw [← h.writes, hsplit, List.filterMap_append]
        apply List.prefix_append
      . rw [← accounts_afterAll deployment requests]
        exact hcheck
      . rw [← hthen, hhandle]
    . rw [hstart i hi] at hanswer
      have hthen := outcome_call deployment requests i data
      rw [Session.outcome_of_start hanswer] at hthen
      have hle : data.accounts.Extends w.store.accounts := by
        rw [h.store]
        exact (le_afterAll deployment requests data order).1
      rcases ProtectedRequest.handle_of_not_permitted
        (ProtectedRequest.not_permitted_of_extends hnot hle) with ⟨raised, hcheck, hhandle⟩
      refine ⟨[], raised, List.nil_prefix, hcheck, ?_⟩
      rw [hthen, hhandle]

variable [Fintype ι] [DecidableEq ι] {data : Data} {schedule : List (Action ι AccountWrite)}
  {w : System ι Data NewRow Empty Raised Response}

theorem confines_of_serve (hrun : serve deployment requests data schedule = some w)
    : ∃ order, Confines deployment requests data schedule w order := by
  rcases linearizable_serve hrun with ⟨order, hlinearizes, _⟩
  refine ⟨_, (serializes_of_linearizes hlinearizes).confines ?_⟩
  intro i hi
  exact Schema.sessions_of_run hrun hi

/-- Whoever is answered is permitted, then and later. -/
theorem permitted_of_answered (hrun : serve deployment requests data schedule = some w) {i : ι}
    {response : Response} (hresponse : (w.sessions i).outcome = some (.ok response))
    : (requests i).permitted deployment w.store.accounts = true := by
  rcases confines_of_serve hrun with ⟨order, h⟩
  by_contra hnot
  rw [Bool.not_eq_true] at hnot
  rcases h.refused i _ hresponse hnot with ⟨_, _, _, _, heq⟩
  injection heq

/-- Those who are not permitted change nothing, and learn nothing of the database. -/
theorem serve_confines (deployment : Deployment) (requests : ι → ProtectedRequest) (data : Data)
    (hrun : serve deployment requests data schedule = some w)
    : ∃ order, Confines deployment requests data schedule w order :=
  confines_of_serve hrun

/-- A request that is permitted when it begins is not refused. -/
theorem serve_admits (hrun : serve deployment requests data schedule = some w)
    {before : List (Action ι AccountWrite)} (hbefore : before <+: schedule)
    {t : System ι Data NewRow Empty Raised Response}
    (ht : serve deployment requests data before = some t) {i : ι}
    (hpermitted : (requests i).permitted deployment t.store.accounts = true)
    (hlater : Action.statement i ∉ before) (hbegins : Action.statement i ∈ schedule)
    {e : HTTPException} (hanswer : (w.sessions i).outcome = some (.error (.http e)))
    : e.status = 404 ∨ e.status = 422 := by
  rcases linearizable_serve hrun with ⟨order, h⟩
  rcases h.later hbefore ht hlater hbegins hanswer with ⟨between, hbetween⟩
  rw [outcome_call, performAll_eq] at hbetween
  have hstill := ProtectedRequest.permitted_mono hpermitted
    (le_afterAll deployment requests t.store between).1
  rw [ProtectedRequest.handle_of_permitted hstill] at hbetween
  exact Operation.handle_raises hbetween

end

section

/-- The one may create people, the other asks for what the operator may not read. -/
def oneRefused (i : Bool) : ProtectedRequest :=
  byOperator (if i then .createPerson ⟨ofString "Mina", none, true, []⟩ 5 true else .getEventAssignment 9)

def amongWrites : List (Action Bool AccountWrite) :=
  [.statement true, .statement false, .change (.setPasswordHash 1 (ofString "$argon2id$v=19$")),
    .statement true, .statement false, .statement true, .statement true]

theorem serve_confines_oneRefused :
    ∃ w order, serve plainDeployment oneRefused registrars amongWrites = some w
      ∧ Confines plainDeployment oneRefused registrars amongWrites w order := by
  have hsome : (serve plainDeployment oneRefused registrars amongWrites).isSome = true := by
    decide +kernel
  rcases Option.isSome_iff_exists.mp hsome with ⟨w, hrun⟩
  rcases serve_confines plainDeployment oneRefused registrars hrun with ⟨order, h⟩
  exact ⟨w, order, hrun, h⟩

/-- An event is asked for that there is not. -/
def asksInVain (_ : Bool) : ProtectedRequest :=
  byOperator (.getEvent 9)

def otherBegan : List (Action Bool AccountWrite) :=
  [.statement true]

def bothAsked : List (Action Bool AccountWrite) :=
  otherBegan ++ [.statement false, .statement false, .statement false]

def raises (status : Nat) : Option (Except Raised Response) → Bool
  | some (.error (.http e)) => e.status = status
  | _ => false

theorem serve_admits_asksInVain :
    ∃ w e, serve plainDeployment asksInVain registrars bothAsked = some w
      ∧ (w.sessions false).outcome = some (.error (.http e)) ∧ (e.status = 404 ∨ e.status = 422) := by
  have hbegun : ((serve plainDeployment asksInVain registrars otherBegan).any
      fun t => (asksInVain false).permitted plainDeployment t.store.accounts) = true := by
    decide +kernel
  have hanswered : ((serve plainDeployment asksInVain registrars bothAsked).any
      fun w => raises 404 (w.sessions false).outcome) = true := by decide +kernel
  rw [Option.any_eq_true] at hbegun hanswered
  rcases hbegun with ⟨t, ht, hpermitted⟩
  rcases hanswered with ⟨w, hw, hraises⟩
  unfold raises at hraises
  split at hraises
  . next e hanswer =>
    refine ⟨w, e, hw, hanswer, ?_⟩
    apply serve_admits hw (List.prefix_append _ _) ht hpermitted _ _ hanswer
    . simp [otherBegan]
    . simp [bothAsked]
  . exact absurd hraises Bool.false_ne_true

end

end Api
