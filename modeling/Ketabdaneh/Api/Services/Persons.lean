import Ketabdaneh.Api.Session

namespace Api

open Text

structure PersonCreate where
  name : Str
  phone : Option Str := none
  active : Bool := true
  roles : List Str := []

def findRole (db : Database) (code : Str) : Option Role :=
  db.roles.rows.find? fun role => role.code = code

def resolveRoles (codes : List Str) : Service (List Role) :=
  if codes = [] then
    return []
  else do
    let found ← Service.query codes findRole
    let missing := codes.filter fun code => (found code).isNone
    if missing ≠ [] then throw (.unknownRole missing) else return codes.filterMap found

def createPerson (payload : PersonCreate) (id : UUID) (commits : Bool) : Service Person := do
  -- duplicate codes are collapsed, in the order of their first occurrence
  let codes := payload.roles.eraseDups
  let roles ← resolveRoles codes
  let person : Person := ⟨id, payload.name, payload.phone, payload.active⟩
  Service.add (.person person (roles.map fun role => ⟨id, role.id⟩))
  Service.commit commits
  return person

end Api
