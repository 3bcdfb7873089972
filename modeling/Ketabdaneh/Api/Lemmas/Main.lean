import Ketabdaneh.Api.Main
import Ketabdaneh.Api.Routes.Lemmas.Middleware

namespace Api

open Asgi Python RequestLoggingMiddleware Text

theorem head?_map_sendWithRequestId {Effect Effect' : Type} (lift : Effect → Effect')
    (requestId : Str) (event : Asgi.Event Effect)
    : (event.map lift (sendWithRequestId requestId)).head?
        =
      event.head?.map fun head =>
        (head.1, head.2 ++ [⟨asciiLower REQUEST_ID_HEADER, requestId⟩]) := by
  cases event with
  | emitted effect => rfl
  | sent message answer =>
    cases message with
    | start status headers =>
      cases answer with
      | none => rfl
      | some raised => rfl
    | body content more => rfl

section

variable {σ Effect : Type}
variable (circumstances : Circumstances) (router : Application Effect) (request : Request)
  (server : Server σ) (s : σ)

def served : Run σ (Effect ⊕ Report) Ended :=
  (app circumstances router request.scope).run server s

theorem records_served
    : records (served circumstances router request server s)
        =
      [record circumstances ⟨router⟩ request server s] := by
  rw [records, reports, served, app, ServerErrorMiddleware.effects_call rfl]
  exact records_answer circumstances ⟨router⟩ request server s

theorem response?_answer
    : (answer circumstances ⟨router⟩ request server s).response?
        =
      (inner circumstances ⟨router⟩ request server s).response?.map fun head =>
        (head.1, head.2
          ++ [⟨asciiLower REQUEST_ID_HEADER, correlationId circumstances request⟩]) := by
  rw [answer_eq, Run.response?, Run.response?, List.map_findSome?, List.findSome?_cons,
    List.findSome?_append]
  show Option.or _ none = _
  rw [Option.or_none, List.findSome?_map]
  congr 1
  funext event
  apply head?_map_sendWithRequestId

/-- The response the client receives has one id, which is the one in the record of the request. -/
def Correlated : Prop :=
  ∃ record requestId, records (served circumstances router request server s) = [record]
    ∧ record.args.getLast? = some (.str requestId)
    ∧ ∀ status headers, (served circumstances router request server s).response?
        = some (status, headers) →
          Header.named (asciiLower REQUEST_ID_HEADER) headers = [requestId]

/--
No exception gets through before a response starts, as far as the server would take the answer to
it, and no response has an id of its own.
-/
structure Identified : Prop where
  starts : ServerErrorMiddleware.Escapes (inner circumstances ⟨router⟩ request server s) →
    (server (inner circumstances ⟨router⟩ request server s).server
      (.start 500 errorHeaders)).1 ≠ none
  own : ∀ status headers, (inner circumstances ⟨router⟩ request server s).response?
    = some (status, headers) → Header.named (asciiLower REQUEST_ID_HEADER) headers = []

theorem named_append (headers : List Header) (requestId : Str)
    : Header.named (asciiLower REQUEST_ID_HEADER)
        (headers ++ [⟨asciiLower REQUEST_ID_HEADER, requestId⟩])
        =
      Header.named (asciiLower REQUEST_ID_HEADER) headers ++ [requestId] := by
  unfold Header.named
  rw [List.filter_append, List.map_append]
  congr 1

theorem escapes_answer
    : ServerErrorMiddleware.Escapes (answer circumstances ⟨router⟩ request server s)
        ↔
      ServerErrorMiddleware.Escapes (inner circumstances ⟨router⟩ request server s) := by
  have hstart : Message.isStart ∘ sendWithRequestId (correlationId circumstances request)
      = Message.isStart := by
    funext message
    cases message with
    | start status headers => rfl
    | body content more => rfl
  unfold ServerErrorMiddleware.Escapes
  rw [sent_answer, answer_eq, List.any_map, hstart]

theorem response?_served_of_not_escapes
    (h : ¬ServerErrorMiddleware.Escapes (inner circumstances ⟨router⟩ request server s))
    : (served circumstances router request server s).response?
        =
      (inner circumstances ⟨router⟩ request server s).response?.map fun head =>
        (head.1, head.2
          ++ [⟨asciiLower REQUEST_ID_HEADER, correlationId circumstances request⟩]) := by
  rw [← escapes_answer, answer] at h
  rw [served, app, ServerErrorMiddleware.response?_call_of_not_escapes rfl h]
  apply response?_answer

theorem response?_served_of_escapes
    (h : ServerErrorMiddleware.Escapes (inner circumstances ⟨router⟩ request server s))
    : (served circumstances router request server s).response?
        =
      if (server (inner circumstances ⟨router⟩ request server s).server
          (.start 500 errorHeaders)).1 = none then
        some (500, errorHeaders)
      else
        none := by
  have hserver : (answer circumstances ⟨router⟩ request server s).server
      = (inner circumstances ⟨router⟩ request server s).server := by
    rw [answer_eq]
  rw [← escapes_answer, answer] at h
  rw [served, app, ServerErrorMiddleware.response?_call_of_escapes rfl h, ← hserver]
  rfl

theorem identified_of_correlated (h : Correlated circumstances router request server s)
    : Identified circumstances router request server s := by
  rcases h with ⟨record', requestId, -, -, hresponse⟩
  constructor
  . intro hescapes htaken
    have herror := response?_served_of_escapes circumstances router request server s hescapes
    rw [if_pos htaken] at herror
    have hnamed := hresponse 500 errorHeaders herror
    rw [show Header.named _ errorHeaders = [] from by decide] at hnamed
    injection hnamed
  . intro status headers hinner
    have hescapes : ¬ServerErrorMiddleware.Escapes
        (inner circumstances ⟨router⟩ request server s) := by
      intro hescapes
      rw [Run.response?_eq_none hescapes.2] at hinner
      injection hinner
    have hserved := response?_served_of_not_escapes circumstances router request server s hescapes
    rw [hinner] at hserved
    have hnamed := hresponse _ _ hserved
    rw [named_append] at hnamed
    have hlength := congrArg List.length hnamed
    simpa using hlength

/-- The server's own answer to an exception is the one response the id is not added to. -/
theorem correlated_iff
    : Correlated circumstances router request server s
        ↔
      Identified circumstances router request server s := by
  constructor
  . apply identified_of_correlated
  . rintro ⟨hstarts, hown⟩
    refine ⟨_, _, records_served _ _ _ _ _, rfl, ?_⟩
    intro status headers hserved
    by_cases hescapes : ServerErrorMiddleware.Escapes
        (inner circumstances ⟨router⟩ request server s)
    . rw [response?_served_of_escapes _ _ _ _ _ hescapes, if_neg (hstarts hescapes)] at hserved
      injection hserved
    . rw [response?_served_of_not_escapes _ _ _ _ _ hescapes, Option.map_eq_some_iff] at hserved
      rcases hserved with ⟨⟨status', headers'⟩, hinner, heq⟩
      injection heq with hstatus hheaders
      rw [← hheaders, named_append, hown status' headers' hinner]
      rfl

end

/-- The database is gone, so that the first query raises. -/
def unreachable : Application Empty :=
  fun scope => .done ⟨scope, .raised (.exception "OperationalError")⟩

def readPersons : Request :=
  { twoLines with path := ofString "/api/persons" }

/-- What the client receives for an exception has no id, while the record has the one it sent. -/
theorem unreachable_not_correlated :
    (records (served ⟨0, 0, 0⟩ unreachable readPersons accepting ())).map
        (fun record => record.getMessage)
        = [ofString "request: GET /api/persons -> 500 0.0ms request_id=web-42"]
      ∧ (served ⟨0, 0, 0⟩ unreachable readPersons accepting ()).response?
        = some (500, errorHeaders)
      ∧ ¬Correlated ⟨0, 0, 0⟩ unreachable readPersons accepting () := by
  refine ⟨by decide +kernel, rfl, ?_⟩
  intro h
  apply (identified_of_correlated _ _ _ _ _ h).starts
  . exact ⟨⟨_, rfl⟩, rfl⟩
  . rfl

end Api
