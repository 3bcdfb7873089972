import Ketabdaneh.Api.Routes.Bodies
import Ketabdaneh.Web.Auth.Session

/-!
This module contains the client that all requests to the API go through: what it sends, and the
errors it makes of what comes back.
-/

namespace Web

open Api Text

inductive ApiErrorKind where
  | validation
  | notFound
  | server
  | network
  deriving DecidableEq

inductive ApiErrorDetail where
  | text (detail : Str)
  | issues (issues : List ValidationIssue)

structure ApiError where
  kind : ApiErrorKind
  status : Option Nat := none
  detail : Option ApiErrorDetail := none

def kindForStatus (status : Nat) : ApiErrorKind :=
  if status = 422 then .validation
  else if status = 404 then .notFound
  else .server

def validationIssues (error : ApiError) : Option (List ValidationIssue) :=
  match error.kind, error.detail with
  | .validation, some (.issues issues) => some issues
  | _, _ => none

/-- What `response.json()` reads of a body, which may have broken off. -/
inductive ResponseBody where
  -- an object with a `detail` of one of the two kinds
  | detail (detail : ApiErrorDetail)
  -- any other document, as `JSON.stringify` writes it
  | json (text : Str)
  | unreadable

structure FetchResponse where
  status : Nat
  body : ResponseBody

def FetchResponse.ok (response : FetchResponse) : Bool :=
  200 ≤ response.status ∧ response.status ≤ 299

/-- What a browser makes of a response of the API. -/
def FetchResponse.of (stringify : Api.Body → Str) (response : HttpResponse) : FetchResponse where
  status := response.status
  body :=
    match response.content with
    | .body body => .json (stringify body)
    | .detail detail => .detail (.text detail)
    | .issues issues => .detail (.issues issues)
    | .failure => .unreadable

def parseErrorDetail : ResponseBody → Option ApiErrorDetail
  | .detail detail => some detail
  | .json text => some (.text text)
  | .unreadable => none

/-- What `request` throws; other errors are those of `response.json()`. -/
inductive Thrown where
  | apiError (error : ApiError)
  | other

/-- `new ApiError("server", …)` stands for what is no `ApiError`. -/
def Thrown.toApiError : Thrown → ApiError
  | .apiError error => error
  | .other => { kind := .server }

/-- The end of a request, where nothing has been fetched when the API could not be reached. -/
def receive : Option FetchResponse → Except Thrown Unit
  | none => .error (.apiError { kind := .network })
  | some response =>
    if !response.ok then
      .error (.apiError
        { kind := kindForStatus response.status
          status := some response.status
          detail := parseErrorDetail response.body })
    else if response.status = 204 then
      .ok ()
    else
      match response.body with
      | .unreadable => .error .other
      | _ => .ok ()

/-- What a page gets instead of the API's answer: nothing, or no success. -/
structure Loss where
  response : Option FetchResponse
  fails : (receive response).isOk = false

/-- The header of a request; a token is read from the storage for each. -/
def authorization (item : Option Str) : Option Str :=
  (readAccessToken item).map fun token => ofString "Bearer " ++ token

end Web
