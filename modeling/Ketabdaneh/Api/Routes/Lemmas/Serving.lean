import Ketabdaneh.Api.Routes.Lemmas.Deps
import Ketabdaneh.Api.Routes.Lemmas.Requests
import Ketabdaneh.Api.Routes.Serving
import Ketabdaneh.Api.Services.Calls
import Ketabdaneh.Library.Transaction.Linearization

/-!
This module contains that requests served beside one another come to what they come to one after the
other, in an order that keeps to the times at which they began and were answered.
-/

namespace Api

open Text Transaction

variable {ι : Type} (deployment : Deployment) (requests : ι → ProtectedRequest) (data : Data)

/--
The requests that have taken effect, in this order and each as a whole, make the tables what they are
and give the answers that were given.
-/
structure Serializes (schedule : List (Action ι AccountWrite))
    (w : System ι Data NewRow Empty Raised Response) (order : List (Action ι AccountWrite))
    : Prop where
  store : w.store = data.afterAll deployment requests order
  once : (order.filterMap Action.session?).Nodup
  writes : order.filterMap Action.change? = schedule.filterMap Action.change?
  began : ∀ i, .statement i ∈ order → .statement i ∈ schedule
  answered : ∀ i, .statement i ∈ schedule → (w.sessions i).outcome ≠ none → .statement i ∈ order
  answer : ∀ before i after answer, order = before ++ .statement i :: after →
    (w.sessions i).outcome = some answer →
    ((requests i).handle deployment (data.afterAll deployment requests before)).1 = answer

theorem performAll_eq (actions : List (Action ι AccountWrite))
    : (dataSchema .unhandled).performAll Data.write (fun i => (requests i).statements deployment) data
          actions
        =
      data.afterAll deployment requests actions := by
  unfold Schema.performAll Data.afterAll
  congr 1
  funext t action
  cases action with
  | statement i => exact congrArg Prod.snd ((requests i).answer_statements deployment t)
  | change write => rfl

theorem le_afterAll (actions : List (Action ι AccountWrite))
    : data ≤ data.afterAll deployment requests actions := by
  rw [← performAll_eq]
  apply le_performAll Data.le_write
  intro i t
  exact (requests i).stable_statements deployment t

theorem afterAll_split (before after : List (Action ι AccountWrite)) (i : ι)
    : data.afterAll deployment requests (before ++ .statement i :: after)
        =
      ((requests i).handle deployment (data.afterAll deployment requests before)).2.afterAll deployment
        requests after := by
  unfold Data.afterAll
  rw [List.foldl_append, List.foldl_cons]
  rfl

theorem outcome_call (i : ι) (t : Data)
    : (call (dataSchema .unhandled).apply t ((requests i).statements deployment)).outcome
        =
      ((requests i).handle deployment t).1 :=
  congrArg Prod.fst ((requests i).answer_statements deployment t)

variable {deployment requests data} {schedule order : List (Action ι AccountWrite)}
  {w : System ι Data NewRow Empty Raised Response}

theorem serializes_of_linearizes
    (h : Linearizes (dataSchema .unhandled) Data.write (fun i => (requests i).statements deployment) data
      schedule w order)
    : Serializes deployment requests data schedule w order where
  store := by rw [h.store, performAll_eq]
  once := h.once
  writes := h.changes
  began := h.began
  answered := h.ended
  answer before i after answer horder hanswer := by
    rw [← outcome_call, ← performAll_eq]
    exact h.outcome before i after answer horder hanswer

variable [Fintype ι] [DecidableEq ι]

theorem linearizable_serve (hrun : serve deployment requests data schedule = some w)
    : ∃ order, Linearizable (dataSchema .unhandled) Data.write
        (fun i => (requests i).statements deployment) data schedule w order := by
  apply linearizable Data.le_write _ hrun
  intro i
  exact (requests i).stable_statements deployment data

/-- Nothing that is answered early is moved behind what begins later. -/
theorem serve_serializes (deployment : Deployment) (requests : ι → ProtectedRequest) (data : Data)
    (hrun : serve deployment requests data schedule = some w)
    : ∃ order, Serializes deployment requests data schedule w order
        ∧ ∀ before t, before <+: schedule → serve deployment requests data before = some t →
            ∃ earlier, earlier <+: order
              ∧ Serializes deployment requests data before t earlier := by
  rcases linearizable_serve hrun with ⟨order, hlinearizes, hprefix⟩
  refine ⟨order, serializes_of_linearizes hlinearizes, ?_⟩
  intro before t hbefore ht
  rcases hprefix before t hbefore ht with ⟨earlier, hearlier, hlinearizes⟩
  exact ⟨earlier, hearlier, serializes_of_linearizes hlinearizes⟩

section

def plainDeployment : Deployment where
  httpBearer := plainBearer
  loading := ⟨fun keys => [keys], fun _ => List.append_nil _⟩
  collate := compare

/-- The operator may create people and events, and read events. -/
def registrars : Data where
  accounts := {
    users := ⟨[operator], List.nodup_singleton _⟩
    applicationRoles := ⟨[⟨2, ofString "operator", ofString "Operator"⟩], List.nodup_singleton _⟩
    permissions := ⟨[
      ⟨3, PEOPLE_CREATE, ofString "Create people"⟩,
      ⟨4, EVENTS_READ, ofString "Read events"⟩,
      ⟨5, EVENTS_CREATE, ofString "Create events"⟩], by decide⟩
    applicationRolePermissions := ⟨[⟨2, 3⟩, ⟨2, 4⟩, ⟨2, 5⟩], by decide⟩
    userApplicationRoles := ⟨[⟨1, 2⟩], List.nodup_singleton _⟩
    uq_users_username := List.nodup_singleton _
    uq_application_roles_code := List.nodup_singleton _
    uq_application_roles_name := List.nodup_singleton _
    uq_permissions_code := by decide
    uq_permissions_name := by decide
    fk_application_role_permissions_application_role_id := by decide
    fk_application_role_permissions_permission_id := by decide
    fk_user_application_roles_user_id := by decide
    fk_user_application_roles_application_role_id := by decide
  }
  database := bareDatabase

def byOperator (operation : Operation) : ProtectedRequest where
  operation
  header := some (ofString "Bearer" ++ cp ' ' :: operatorToken)
  jwt := operatorJwt
  settings := operatorSettings

def newcomers (i : Bool) : ProtectedRequest :=
  byOperator (.createPerson ⟨ofString "Mina", none, true, []⟩ (if i then 5 else 6) true)

def inTurns : List (Action Bool AccountWrite) :=
  [.statement true, .statement false, .statement true, .statement false, .statement true,
    .statement false, .statement false, .statement true]

theorem serve_serializes_newcomers :
    ∃ w order, serve plainDeployment newcomers registrars inTurns = some w
      ∧ Serializes plainDeployment newcomers registrars inTurns w order := by
  have hsome : (serve plainDeployment newcomers registrars inTurns).isSome = true := by
    decide +kernel
  rcases Option.isSome_iff_exists.mp hsome with ⟨w, hrun⟩
  rcases serve_serializes plainDeployment newcomers registrars hrun with ⟨order, h, _⟩
  exact ⟨w, order, hrun, h⟩

end

end Api
