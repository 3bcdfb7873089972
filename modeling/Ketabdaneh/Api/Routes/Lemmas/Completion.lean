import Ketabdaneh.Api.Routes.Lemmas.Creations
import Ketabdaneh.Library.Transaction.Progress

/-!
This module contains that requests which are served beside one another never block each other for
good.
-/

namespace Api

open Transaction Program

namespace Statements

section

variable {α : Type}

theorem atOnce_query (texts : List Str) (select : Database → α) : (query texts select).AtOnce := by
  unfold query
  split
  . intro data
    trivial
  . trivial

theorem atOnce_addCommit (row : NewRow) (commits : Bool) : (addCommit row commits).AtOnce := by
  unfold addCommit
  cases commits with
  | true => exact ⟨trivial, trivial⟩
  | false => exact ⟨trivial, trivial⟩

theorem atOnce_resolveRoles (codes : List Str) : (resolveRoles codes).AtOnce := by
  unfold resolveRoles
  split
  . trivial
  . apply AtOnce.bind
    . apply atOnce_query
    . intro found
      dsimp only
      split
      . trivial
      . trivial

theorem atOnce_createPerson (payload : PersonCreate) (id : UUID) (commits : Bool)
    : (createPerson payload id commits).AtOnce := by
  apply AtOnce.bind
  . apply atOnce_resolveRoles
  . intro roles
    apply AtOnce.bind
    . apply atOnce_addCommit
    . intro _
      trivial

theorem atOnce_createEvent (payload : EventCreate) (id : UUID) (commits : Bool)
    : (createEvent payload id commits).AtOnce := by
  apply AtOnce.bind
  . apply atOnce_addCommit
  . intro _
    trivial

theorem atOnce_fetchEvent (id : UUID) : (fetchEvent id).AtOnce := by
  apply AtOnce.bind
  . apply atOnce_query
  . intro found
    cases found with
    | ok event => trivial
    | error e =>
      cases e with
      | notFound => trivial
      | database => trivial

theorem atOnce_fetchPerson (id : UUID) : (fetchPerson id).AtOnce := by
  apply AtOnce.bind
  . apply atOnce_query
  . intro found
    cases found with
    | none => trivial
    | some person => trivial

theorem atOnce_fetchResponsibility (code : Str) : (fetchResponsibility code).AtOnce := by
  apply AtOnce.bind
  . apply atOnce_query
  . intro found
    cases found with
    | none => trivial
    | some responsibility => trivial

theorem atOnce_createEventAssignment (payload : EventAssignmentCreate) (id : UUID) (commits : Bool)
    : (createEventAssignment payload id commits).AtOnce := by
  apply AtOnce.bind (atOnce_fetchEvent payload.eventId)
  intro _
  apply AtOnce.bind (atOnce_fetchPerson payload.personId)
  intro _
  apply AtOnce.bind (atOnce_fetchResponsibility payload.responsibility)
  intro responsibility
  apply AtOnce.bind (atOnce_addCommit _ commits)
  intro _
  apply atOnce_query

end

theorem atOnce_getCurrentUser (jwt : PyJWT) (settings : AuthSettings)
    (credentials : Option HTTPAuthorizationCredentials)
    : (getCurrentUser jwt settings credentials).AtOnce := by
  unfold getCurrentUser
  cases credentials with
  | none => trivial
  | some credentials =>
    dsimp only
    split
    . trivial
    . cases resolveTokenSubject jwt settings credentials.credentials with
      | error e =>
        cases e with
        | invalidToken => trivial
        | insecureSecret => trivial
        | other => trivial
      | ok subject =>
        dsimp only
        cases Python.uuid subject with
        | none => trivial
        | some userId =>
          apply AtOnce.query_bind
          intro found
          cases found with
          | none => trivial
          | some user =>
            dsimp only
            split
            . trivial
            . trivial

theorem atOnce_requirePermission (jwt : PyJWT) (settings : AuthSettings) (permission : Str)
    (httpBearer : Option Str → Option HTTPAuthorizationCredentials) (header : Option Str)
    : (requirePermission jwt settings permission httpBearer header).AtOnce := by
  apply AtOnce.bind (atOnce_getCurrentUser jwt settings _)
  intro user
  apply AtOnce.query_bind
  intro permitted
  split
  . trivial
  . trivial

theorem atOnce_selectIn {Row : Type} (select : Database → List UUID → List Row)
    (batches : List (List UUID)) : (selectIn select batches).AtOnce := by
  induction batches with
  | nil => trivial
  | cons keys batches ih =>
    apply AtOnce.query_bind
    intro rows
    apply AtOnce.bind ih
    intro rest
    trivial

section

variable (loading : SelectInLoading)

theorem atOnce_loadLinks (batches : List (List UUID)) : (loadLinks loading batches).AtOnce := by
  induction batches with
  | nil => trivial
  | cons personIds batches ih =>
    apply AtOnce.query_bind
    intro links
    apply AtOnce.bind
    . apply atOnce_selectIn
    . intro roles
      apply AtOnce.bind ih
      intro rest
      trivial

theorem atOnce_loadResponsibilities (rows : List EventAssignment)
    : (loadResponsibilities loading rows).AtOnce := by
  apply AtOnce.bind
  . apply atOnce_selectIn
  . intro responsibilities
    trivial

theorem atOnce_respond (status : Nat) (row : EventAssignment)
    : (respond loading status row).AtOnce := by
  apply AtOnce.bind (atOnce_loadResponsibilities loading [row])
  intro reads
  cases reads with
  | nil => trivial
  | cons read reads => trivial

end

end Statements

open Statements

theorem Operation.atOnce_statements (loading : SelectInLoading) (collate : Collation)
    (operation : Operation) : (operation.statements loading collate).AtOnce := by
  cases operation with
  | listRoles =>
    apply AtOnce.query_bind
    intro roles
    trivial
  | listPersons =>
    apply AtOnce.query_bind
    intro persons
    apply AtOnce.bind
    . apply atOnce_loadLinks
    . intro links
      trivial
  | createPerson payload id commits =>
    apply AtOnce.bind
    . exact (atOnce_createPerson payload id commits).mapError _
    . intro created
      trivial
  | listEvents =>
    apply AtOnce.query_bind
    intro found
    cases found with
    | none => trivial
    | some events => trivial
  | getEvent id =>
    apply AtOnce.query_bind
    intro found
    cases found with
    | ok event => trivial
    | error e =>
      cases e with
      | notFound => trivial
      | database => trivial
  | createEvent payload id commits =>
    apply AtOnce.bind
    . exact (atOnce_createEvent payload id commits).mapError _
    . intro event
      trivial
  | listEventAssignments =>
    apply AtOnce.query_bind
    intro rows
    apply AtOnce.bind
    . apply atOnce_loadResponsibilities
    . intro reads
      trivial
  | getEventAssignment id =>
    apply AtOnce.query_bind
    intro found
    cases found with
    | none => trivial
    | some row => apply atOnce_respond
  | createEventAssignment payload id commits =>
    apply AtOnce.bind
    . exact (atOnce_createEventAssignment payload id commits).mapError _
    . intro found
      cases found with
      | none => trivial
      | some row => apply atOnce_respond

theorem ProtectedRequest.atOnce_statements (deployment : Deployment) (request : ProtectedRequest)
    : (request.statements deployment).AtOnce := by
  apply AtOnce.bind
  . apply Statements.atOnce_requirePermission
  . intro _
    apply Operation.atOnce_statements

/-- Whatever has been served, what is left can be served until every request is answered. -/
theorem serve_completes {ι : Type} [Fintype ι] [DecidableEq ι] (deployment : Deployment)
    (requests : ι → ProtectedRequest) (data : Data) {schedule : List (Action ι AccountWrite)}
    {w : System ι Data NewRow Empty Raised Response}
    (hrun : serve deployment requests data schedule = some w)
    : ∃ (sessions : List ι) (w' : System ι Data NewRow Empty Raised Response),
        serve deployment requests data (schedule ++ sessions.map .statement) = some w'
          ∧ ∀ i, (w'.sessions i).outcome ≠ none := by
  rcases Schema.completes (fun i => (requests i).atOnce_statements deployment) hrun with
    ⟨w', ⟨sessions, honward⟩, hended⟩
  refine ⟨sessions, w', ?_, hended⟩
  unfold serve at hrun ⊢
  rw [Transition.run_append, hrun]
  exact honward

/-- The one has written, the other has to wait. -/
def oneWaits : List (Action Bool AccountWrite) :=
  [.statement true, .statement false, .statement true, .statement false, .statement true]

theorem serve_completes_rivals :
    ∃ w, ∃ (sessions : List Bool) (w' : System Bool Data NewRow Empty Raised Response),
      serve plainDeployment rivals registrars oneWaits = some w
      ∧ (dataSchema Raised.unhandled).waits w false = true
      ∧ serve plainDeployment rivals registrars (oneWaits ++ sessions.map .statement) = some w'
      ∧ ∀ i, (w'.sessions i).outcome ≠ none := by
  have hwaits : ((serve plainDeployment rivals registrars oneWaits).any
      fun w => (dataSchema Raised.unhandled).waits w false) = true := by decide +kernel
  rw [Option.any_eq_true] at hwaits
  rcases hwaits with ⟨w, hrun, hwaits⟩
  rcases serve_completes plainDeployment rivals registrars hrun with ⟨sessions, w', hrun', hended⟩
  exact ⟨w, sessions, w', hrun, hwaits, hrun', hended⟩

end Api
