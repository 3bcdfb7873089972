import Ketabdaneh.Api.Routes.Requests
import Ketabdaneh.Library.Python.Json

/-!
This module contains `POST /api/persons` as it comes over the wire: a JSON body that pydantic reads,
and the response that is made of what the route comes to.
-/

namespace Api

open Python Text

inductive Location where
  | field (name : Str)
  | item (index : Nat)
  deriving DecidableEq

structure ValidationIssue where
  type : Str
  loc : List Location
  msg : Str
  -- what the issue is with: the body, or a part of it
  input : Json

/-- Whether `JSONResponse` can write the issue, whose other texts are pydantic's own. -/
def ValidationIssue.renders (issue : ValidationIssue) : Bool :=
  issue.input.compliant && issue.input.encodable

inductive Content where
  | body (body : Body)
  -- `{"detail": …}` with a text
  | detail (detail : Str)
  -- `{"detail": …}` with the issues that pydantic has with a request
  | issues (issues : List ValidationIssue)
  -- `Internal Server Error`, which is no JSON
  | failure

structure HttpResponse where
  status : Nat
  content : Content

def HttpResponse.of : Except Raised Response → HttpResponse
  | .ok response => ⟨response.status, .body response.body⟩
  | .error (.http exception) => ⟨exception.status, .detail exception.detail⟩
  | .error .unhandled => ⟨500, .failure⟩

structure PostRequest where
  header : Option Str
  body : Json

/-- What the server has for a request: PyJWT at the time, its settings, an id and PostgreSQL. -/
structure Serving where
  jwt : PyJWT
  settings : AuthSettings
  id : UUID
  commits : Bool

namespace PostRequest

variable (deployment : Deployment)
  (personCreate : Json → Except (List ValidationIssue) PersonCreate)

def creation (request : PostRequest) (payload : PersonCreate) (serving : Serving)
    : ProtectedRequest where
  operation := .createPerson payload serving.id serving.commits
  header := request.header
  jwt := serving.jwt
  settings := serving.settings

def createPerson (data : Data) (request : PostRequest) (serving : Serving) : HttpResponse × Data :=
  match personCreate request.body with
  | .ok payload =>
    let (answer, data) := (request.creation payload serving).handle deployment data
    (.of answer, data)
  | .error issues =>
    -- the permission is checked first, whatever the body is
    match requirePermission PEOPLE_CREATE serving.jwt serving.settings deployment.httpBearer
      request.header data.accounts with
    | .error raised => (.of (.error raised), data)
    | .ok _ =>
      if issues.all ValidationIssue.renders then
        (⟨422, .issues issues⟩, data)
      else
        -- the exception handler raises where it writes the response
        (⟨500, .failure⟩, data)

end PostRequest

end Api
