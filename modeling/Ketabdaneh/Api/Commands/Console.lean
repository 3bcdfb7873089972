import Ketabdaneh.Api.Routes.Reads
import Ketabdaneh.Api.Services.Authz
import Ketabdaneh.Library.Transaction.Outline

/-!
This module contains what the commands for users and their roles have in common: the services they
call, what these raise there, and what is seen of a command in its terminal.
-/

namespace Api

open Text Transaction

inductive Console where
  | work (work : Work)
  | prompt (text : Str)
  | stdout (line : Str)
  | stderr (line : Str)

/-- What a command raises. A text that UTF-8 does not encode is a `ValueError` of its own kind. -/
inductive CommandError where
  | service (e : AccountError)
  | encode (text : Str)
  | interrupted

/-- `repr` of a text, `str` of the error for a text without encoding, and the database's collation. -/
structure Terminal where
  repr : Str → Str
  encodeError : Str → Str
  collate : Collation

abbrev Command :=
  Program Accounts AccountWrite Console CommandError

def commandSchema : Schema Accounts AccountWrite CommandError where
  apply db write := (write.apply db).mapError .service
  conflicts := AccountWrite.conflicts

/-- `str(exc)`, where that is a `ValueError`. -/
def CommandError.valueError? : CommandError → Option Str
  | .service .authentication => none
  | .service .insecureSecret => none
  | .service e => e.text
  | .encode text => some text
  | .interrupted => none

namespace Terminal

variable (terminal : Terminal)

/-- The driver encodes the texts, which are sent one after the other, and the hasher the password. -/
def raised (texts : List Str) (password : Str) : AccountError → CommandError
  | .database =>
    match texts.find? fun text => !storable text with
    | some text => if encodable text then .service .database else .encode (terminal.encodeError text)
    | none => .service .database
  | .hashing => if encodable password then .service .hashing else .encode (terminal.encodeError password)
  | e => .service e

def call {α : Type} (texts : List Str) (password : Str) (service : AccountService α) : Command α :=
  service.handle .work .pure fun e => .throw (terminal.raised texts password e)

def listApplicationRoles : Command (List ApplicationRole) :=
  .query fun db => db.applicationRoles.rows.mergeSort fun a b => (terminal.collate a.code b.code).isLE

end Terminal

namespace Command

def tell (event : Console) : Command Unit :=
  .emit event (.pure ())

/-- A line of the error output, and the status. -/
def fail {α : Type} (line : Str) (status : Nat) : Command (Except Nat α) := do
  tell (.stderr line)
  return .error status

/-- What is typed at a prompt, if it is not broken off. -/
def getpass (prompt : Str) (typed : Option Str) : Command Str := do
  tell (.prompt prompt)
  match typed with
  | some text => return text
  | none => .throw .interrupted

end Command

def unknownApplicationRoleText (code : Str) (roles : List ApplicationRole) : Str :=
  ofString "Unknown application role: " ++ code ++ ofString ". Available roles: "
    ++ (ofString ", ").intercalate (roles.map ApplicationRole.code)

end Api
