import Ketabdaneh.Library.Submission
import Ketabdaneh.Web.Api.Client

/-!
This module contains the form for a new person, and the page with it beside the API.
-/

namespace Web

open Api Python Text

/-- A message: one of the translations, or the text of an answer. -/
inductive Message where
  | translation (key : String)
  | verbatim (text : Str)
  deriving DecidableEq

structure PersonCreateForm where
  roles : Option (List Role)
  rolesError : Bool := false
  name : Str := []
  phone : Str := []
  active : Bool := true
  selectedRoleCodes : List Str := []
  submitting : Bool := false
  nameError : Option Message := none
  formError : Option Message := none
  -- `router.push("/people")` has been called
  pushed : Bool := false
  -- a link to the list has been followed
  followed : Bool := false

/-- The document that `JSON.stringify` writes. -/
def stringify (payload : PersonCreate) : Json :=
  .obj [
    (ofString "name", .str payload.name),
    (ofString "phone", payload.phone.elim .null .str),
    (ofString "active", .bool payload.active),
    (ofString "roles", .arr (payload.roles.map .str))
  ]

namespace PersonCreateForm

def rolesUnavailable (form : PersonCreateForm) : Bool :=
  form.rolesError || form.roles.getD [] matches []

def toggleRole (form : PersonCreateForm) (code : Str) : PersonCreateForm :=
  let current := form.selectedRoleCodes
  { form with
    selectedRoleCodes := if code ∈ current then current.filter (· ≠ code) else current ++ [code] }

def payload (form : PersonCreateForm) : PersonCreate where
  name := trim form.name
  phone := if trim form.phone = [] then none else some (trim form.phone)
  active := form.active
  roles := form.selectedRoleCodes

/-- Up to where `createPerson` is awaited, with what the browser's storage has for a token. -/
def handleSubmit (form : PersonCreateForm) (item : Option Str)
    : PersonCreateForm × Option PostRequest :=
  if form.submitting || form.rolesUnavailable then
    (form, none)
  else if trim form.name = [] then
    ({ form with
      nameError := some (.translation "validation.nameRequired")
      formError := none }, none)
  else
    ({ form with nameError := none, submitting := true, formError := none },
      some ⟨authorization item, stringify form.payload⟩)

def isNameIssue (issue : ValidationIssue) : Bool :=
  match issue.loc with
  | .field root :: .field name :: _ => root = ofString "body" && name = ofString "name"
  | _ => false

def failed (form : PersonCreateForm) (error : ApiError) : PersonCreateForm :=
  let form :=
    match error.kind with
    | .validation =>
      if ((validationIssues error).getD []).any isNameIssue then
        { form with nameError := some (.translation "validation.nameRequired") }
      else
        match error.detail with
        | some (.text detail) => { form with formError := some (.verbatim detail) }
        | _ => { form with formError := some (.translation "error.validation") }
    | .network => { form with formError := some (.translation "error.network") }
    | _ => { form with formError := some (.translation "error.server") }
  { form with submitting := false }

def settle (form : PersonCreateForm) : Except Thrown Unit → PersonCreateForm
  | .ok _ => { form with pushed := true }
  | .error thrown => form.failed thrown.toApiError

inductive Event where
  | name (value : Str)
  | phone (value : Str)
  | toggleRole (role : Role)
  | active (checked : Bool)
  -- the form's link to cancel, or the one back of a page without roles
  | link
  | submit (item : Option Str)

def edit (form : PersonCreateForm) : Event → Option PersonCreateForm
  | .name value => some { form with name := value, nameError := none }
  | .phone value => some { form with phone := value }
  | .toggleRole role =>
    if role.code ∈ (form.roles.getD []).map Role.code then
      some (form.toggleRole role.code)
    else
      none
  | .active checked => some { form with active := checked }
  | .link | .submit _ => none

def user (form : PersonCreateForm) (event : Event)
    : Option (PersonCreateForm × Option PostRequest) :=
  match event with
  -- a link stays enabled, and its page on the screen until the list is there
  | .link => some ({ form with followed := true }, none)
  | event =>
    -- without roles there is no form on the page
    if form.rolesUnavailable then
      none
    else
      match event with
      | .submit item => some (form.handleSubmit item)
      -- the controls are disabled while the form is submitting
      | event => if form.submitting then none else (form.edit event).map fun form => (form, none)

end PersonCreateForm

/-- What others do with the API: a request of theirs, or a write of the account tools. -/
inductive Elsewhere where
  | request (other : ProtectedRequest)
  | write (change : AccountWrite)

def Elsewhere.apply (deployment : Deployment) (data : Data) : Elsewhere → Data
  | .request other => (other.handle deployment data).2
  | .write change => data.write change

/-- FastAPI and the browser beside the API. -/
structure Wire where
  deployment : Deployment
  personCreate : Json → Except (List ValidationIssue) PersonCreate
  stringify : Api.Body → Str

def Wire.receive (wire : Wire) (response : HttpResponse) : Except Thrown Unit :=
  Web.receive (some (.of wire.stringify response))

abbrev PersonCreatePage :=
  Submission.Page Data PersonCreateForm PostRequest HttpResponse

namespace PersonCreatePage

abbrev Action :=
  Submission.Action PersonCreateForm.Event Elsewhere Serving Loss

/-- The page for `GET /api/roles` answered `roles`, or failed. -/
def mount (data : Data) (roles : Option (List Role)) : PersonCreatePage where
  store := data
  form := { roles, rolesError := roles.isNone }

def rules (wire : Wire)
    : Submission.Rules Data PersonCreateForm PostRequest HttpResponse PersonCreateForm.Event
        Elsewhere Serving Loss where
  user := PersonCreateForm.user
  change := Elsewhere.apply wire.deployment
  carryOut data request serving :=
    request.createPerson wire.deployment wire.personCreate data serving
  hear form response := form.settle (wire.receive response)
  abandon form loss := form.settle (receive loss.response)

def step (wire : Wire) : PersonCreatePage → Action → Option PersonCreatePage :=
  (rules wire).step

end PersonCreatePage

end Web
